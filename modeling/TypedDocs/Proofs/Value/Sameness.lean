import Mathlib.Data.List.Perm.Subperm
import TypedDocs.Value

/-!
# Values that are the same

Being the same is an equivalence of values.  Objects are compared field by field in order of keys;
as the keys of an object ascend, that is to say that they have equally many fields and each field of
the one is in the other:

    fields.Sorted → gs.Sorted → (sameFields fields gs ↔ fields.length = gs.length ∧
      ∀ key v, fields.get? key = some v → ∃ w, gs.get? key = some w ∧ v.sameValue w)
                                                                        (sameFields_iff_included)
-/

namespace TypedDocs.Value

variable {v v' w w' : Value} {items others : List Value} {fields gs : Layout}

/-! ## An equivalence -/

theorem equivalence_sameValue : Equivalence fun v w : Value => v.sameValue w = true where
  refl := sameValue_refl
  symm {v w} hvw := by rwa [sameValue_comm w v]
  trans := sameValue_trans

/-- Either of two values that are the same may stand for the other in a comparison. -/
theorem sameValue_congr (hv : v.sameValue v' = true) (hw : w.sameValue w' = true) :
    v.sameValue w = v'.sameValue w' := by
  have hback : v'.sameValue v = true := by rwa [sameValue_comm v' v]
  have hback' : w'.sameValue w = true := by rwa [sameValue_comm w' w]
  rw [Bool.eq_iff_iff]
  constructor
  · intro hvw
    exact sameValue_trans hback (sameValue_trans hvw hw)
  · intro hvw
    exact sameValue_trans hv (sameValue_trans hvw hback')

/-! ## Items and fields -/

/-- Values that are the same are equal, or of one form with parts that are the same. -/
theorem forms_of_sameValue (hv : v.sameValue v' = true) :
    v = v' ∨ (∃ n m, v = .number n ∧ v' = .number m ∧ n.sameValue m = true) ∨
      (∃ items others, v = .array items ∧ v' = .array others ∧ sameItems items others = true) ∨
      ∃ fields gs, v = .object fields ∧ v' = .object gs ∧ sameFields fields gs = true := by
  cases v with
  | null => exact .inl (sameValue_null_iff.1 hv)
  | bool b => exact .inl (sameValue_bool_iff.1 hv)
  | string s => exact .inl (sameValue_string_iff.1 hv)
  | number n =>
    obtain ⟨m, rfl, hn⟩ := sameValue_number_iff.1 hv
    exact .inr (.inl ⟨n, m, rfl, rfl, hn⟩)
  | array items =>
    obtain ⟨others, rfl, hi⟩ := sameValue_array_iff.1 hv
    exact .inr (.inr (.inl ⟨items, others, rfl, rfl, hi⟩))
  | object fields =>
    obtain ⟨gs, rfl, hf⟩ := sameValue_object_iff.1 hv
    exact .inr (.inr (.inr ⟨fields, gs, rfl, rfl, hf⟩))

theorem ne_array_congr (hv : v.sameValue v' = true) (ha : ∀ items, v ≠ .array items) :
    ∀ items, v' ≠ .array items := by
  rintro items rfl
  rw [sameValue_comm] at hv
  obtain ⟨others, rfl, -⟩ := sameValue_array_iff.1 hv
  exact ha others rfl

theorem ne_object_congr (hv : v.sameValue v' = true) (ho : ∀ fields, v ≠ .object fields) :
    ∀ fields, v' ≠ .object fields := by
  rintro fields rfl
  rw [sameValue_comm] at hv
  obtain ⟨gs, rfl, -⟩ := sameValue_object_iff.1 hv
  exact ho gs rfl

theorem isNull_congr (hv : v.sameValue v' = true) : v.isNull = v'.isNull := by
  rcases forms_of_sameValue hv with
    rfl | ⟨n, m, rfl, rfl, -⟩ | ⟨items, others, rfl, rfl, -⟩ | ⟨fields, gs, rfl, rfl, -⟩ <;> rfl

theorem string?_congr (hv : v.sameValue v' = true) : v.string? = v'.string? := by
  rcases forms_of_sameValue hv with
    rfl | ⟨n, m, rfl, rfl, -⟩ | ⟨items, others, rfl, rfl, -⟩ | ⟨fields, gs, rfl, rfl, -⟩ <;> rfl

theorem length_eq_of_sameItems (hs : sameItems items others = true) :
    items.length = others.length := by
  induction items generalizing others with
  | nil =>
    obtain rfl := sameItems_nil_iff.1 hs
    rfl
  | cons v items ih =>
    obtain ⟨w, ws, rfl, -, hrest⟩ := sameItems_cons_iff.1 hs
    rw [List.length_cons, List.length_cons, ih hrest]

theorem keys_eq_of_sameFields (hs : sameFields fields gs = true) : fields.keys = gs.keys := by
  induction fields generalizing gs with
  | nil =>
    obtain rfl := sameFields_nil_iff.1 hs
    rfl
  | cons f fields ih =>
    obtain ⟨w, rest, rfl, -, hrest⟩ := sameFields_cons_iff.1 hs
    have hkeys := ih hrest
    simp only [Keyed.keys] at hkeys
    simp [Keyed.keys, hkeys]

/-- What is under a key is the same, if there is something. -/
theorem get?_of_sameFields (hs : sameFields fields gs = true) (key : String) :
    (fields.get? key = none ∧ gs.get? key = none) ∨
      ∃ v w, fields.get? key = some v ∧ gs.get? key = some w ∧ v.sameValue w = true := by
  induction fields generalizing gs with
  | nil =>
    obtain rfl := sameFields_nil_iff.1 hs
    exact .inl ⟨rfl, rfl⟩
  | cons f fields ih =>
    obtain ⟨k, v⟩ := f
    obtain ⟨w, rest, rfl, hv, hrest⟩ := sameFields_cons_iff.1 hs
    by_cases hk : k = key
    · right
      exact ⟨v, w, by simp [Keyed.get?, hk], by simp [Keyed.get?, hk], hv⟩
    · simpa [Keyed.get?, hk] using ih hrest

/-- A text under a key is the same text. -/
theorem text_congr (hs : sameFields fields gs = true) (key : String) :
    (fields.get? key).bind string? = (gs.get? key).bind string? := by
  rcases get?_of_sameFields hs key with ⟨hf, hg⟩ | ⟨v, w, hf, hg, hvw⟩
  · rw [hf, hg]
  · rw [hf, hg]
    exact string?_congr hvw

/-- Layouts with the same keys in order are the same when what is under each key is. -/
theorem sameFields_of_keys_eq (hn : fields.keys.Nodup) (hk : fields.keys = gs.keys)
    (hv : ∀ key v, fields.get? key = some v → ∃ w, gs.get? key = some w ∧ v.sameValue w = true) :
    sameFields fields gs = true := by
  induction fields generalizing gs with
  | nil =>
    cases gs with
    | nil => rfl
    | cons g gs => cases hk
  | cons f fields ih =>
    obtain ⟨key, v⟩ := f
    cases gs with
    | nil => cases hk
    | cons g gs =>
      obtain ⟨key', w⟩ := g
      simp only [Keyed.keys, List.map_cons, List.cons.injEq] at hk
      obtain ⟨rfl, hkeys⟩ := hk
      rw [Keyed.keys, List.map_cons, List.nodup_cons] at hn
      have hfirst : v.sameValue w = true := by
        obtain ⟨found, hfound, hsame⟩ := hv key v (by simp [Keyed.get?])
        rw [Keyed.get?, if_pos rfl] at hfound
        cases hfound
        exact hsame
      refine sameFields_cons_iff.2 ⟨w, gs, rfl, hfirst, ih hn.2 hkeys ?_⟩
      intro other u hu
      have hne : key ≠ other := by
        rintro rfl
        exact hn.1 (List.mem_map.2 ⟨(key, u), Keyed.mem_of_get? hu, rfl⟩)
      obtain ⟨found, hfound, hsame⟩ := hv other u (by rw [Keyed.get?, if_neg hne, hu])
      rw [Keyed.get?, if_neg hne] at hfound
      exact ⟨found, hfound, hsame⟩

/-- Layouts are the same when they have equally many fields and each of the one is in the other:
then they have one set of keys, and it ascends in one way only. -/
theorem sameFields_iff_included (hf : Keyed.Sorted fields) (hg : Keyed.Sorted gs) :
    sameFields fields gs = true ↔ fields.length = gs.length ∧
      ∀ key v, fields.get? key = some v → ∃ w, gs.get? key = some w ∧ v.sameValue w = true := by
  constructor
  · intro hs
    refine ⟨?_, ?_⟩
    · have hlength := congrArg List.length (keys_eq_of_sameFields hs)
      simpa [Keyed.keys] using hlength
    · intro key v hv
      rcases get?_of_sameFields hs key with ⟨hnone, -⟩ | ⟨u, w, hu, hw, hsame⟩
      · rw [hnone] at hv
        cases hv
      · rw [hu] at hv
        cases hv
        exact ⟨w, hw, hsame⟩
  · rintro ⟨hlength, hv⟩
    have hsubset : fields.keys ⊆ gs.keys := by
      intro key hkey
      obtain ⟨v, hget⟩ := Option.isSome_iff_exists.1 (Keyed.mem_keys_iff.1 hkey)
      obtain ⟨w, hw, -⟩ := hv key v hget
      exact Keyed.mem_keys_of_get? hw
    have hperm : fields.keys.Perm gs.keys := by
      refine (List.subperm_of_subset hf.nodup hsubset).perm_of_length_le ?_
      simp [Keyed.keys, hlength]
    have hascend : ∀ {l : Layout}, l.Sorted → l.keys.Pairwise (· < ·) := by
      intro l hl
      exact List.pairwise_map.2 hl
    have hkeys : fields.keys = gs.keys := by
      refine hperm.eq_of_pairwise ?_ (hascend hf) (hascend hg)
      intro a b _ _ hab hba
      exact absurd hba (String.lt_asymm hab)
    exact sameFields_of_keys_eq hf.nodup hkeys hv

end TypedDocs.Value
