import Mathlib.Data.List.Sort
import TypedDocs.Path
import TypedDocs.Value.Ordered

/-!
# Order of fields under changes

A layout stays ordered when an ordered value is written into it or an entry is taken away, at the
root or at the end of a path; what is read from it is ordered.  Lists of entries in order are the
same when they have the same under every key (`Keyed.Sorted.eq_of_get?`), and entries with different
keys make the same list in whatever order they are given (`Keyed.ofEntries_of_perm`).

    l.Ordered → v.Ordered → (l.insert k v).Ordered                              (Ordered.insert)
    l.Ordered → new.Ordered → l.replace? path new = some l' → l'.Ordered        (Ordered.replace?)
-/

namespace TypedDocs

/-! ## Entries -/

namespace Keyed

variable {α : Type} {m m' : Keyed α} {entries entries' : List (String × α)}

theorem Sorted.eq_of_get? (hm : Sorted m) (hm' : Sorted m')
    (hg : ∀ key, get? m key = get? m' key) : m = m' := by
  have hirrefl : Std.Irrefl fun a b : String × α => a.1 < b.1 :=
    ⟨fun e => String.lt_irrefl e.1⟩
  have hantisymm : Std.Antisymm fun a b : String × α => a.1 < b.1 :=
    ⟨fun _ _ hab hba => absurd hba (String.lt_asymm hab)⟩
  refine List.Pairwise.eq_of_mem_iff hm hm' fun ⟨key, value⟩ => ?_
  rw [← hm.get?_eq_some_iff, ← hm'.get?_eq_some_iff, hg]

theorem perm_ofEntries (hn : (entries.map Prod.fst).Nodup) : (ofEntries entries).Perm entries := by
  have hsorted := sorted_ofEntries entries
  refine (List.perm_ext_iff_of_nodup hsorted.nodup.of_map hn.of_map).2 fun e => ?_
  rw [← hsorted.get?_eq_some_iff, get?_ofEntries hn]
  exact ⟨mem_of_get?, get?_of_mem hn⟩

theorem ofEntries_of_perm (hn : (entries.map Prod.fst).Nodup) (hp : entries.Perm entries') :
    ofEntries entries = ofEntries entries' := by
  have hn' : (entries'.map Prod.fst).Nodup := (hp.map _).nodup_iff.1 hn
  refine List.Perm.eq_of_pairwise ?_ (sorted_ofEntries entries) (sorted_ofEntries entries')
    ((perm_ofEntries hn).trans (hp.trans (perm_ofEntries hn').symm))
  intro a b _ _ hab hba
  exact absurd hba (String.lt_asymm hab)

/-- Writing over a list that is in order is making one of its entries and the new ones. -/
theorem Sorted.overlay_eq_ofEntries (hm : Sorted m) (entries : List (String × α)) :
    Keyed.overlay m entries = ofEntries (m ++ entries) := by
  conv => lhs; rw [← ofEntries_of_sorted hm]
  rw [ofEntries, ofEntries, Keyed.overlay, List.foldl_append]

end Keyed

/-! ## Values -/

namespace Value

variable {v w new : Value} {path : Path} {fields : Layout} {items : List Value}

theorem ordered_object_iff :
    (Value.object fields).Ordered ↔ Keyed.Sorted fields ∧ ∀ e ∈ fields, e.2.Ordered := by
  rw [Ordered, fieldsOrdered_iff]

theorem ordered_array_iff : (Value.array items).Ordered ↔ ∀ item ∈ items, item.Ordered := by
  rw [Ordered, itemsOrdered_iff]

theorem ordered_of_isScalar (hv : v.isScalar = true) : v.Ordered := by
  cases v with
  | bool b | number n | string s => simp [Ordered]
  | _ => cases hv

/-- What a path leads to in an ordered value is ordered. -/
theorem Ordered.at? (hv : v.Ordered) (h : v.at? path = some w) : w.Ordered := by
  fun_induction Value.at? v path with
  | case1 v =>
    cases h
    exact hv
  | case2 fields key path ih =>
    obtain ⟨inner, hget, hat⟩ := Option.bind_eq_some_iff.1 h
    exact ih inner ((ordered_object_iff.1 hv).2 _ (Keyed.mem_of_get? hget)) hat
  | case3 items i path ih =>
    obtain ⟨inner, hget, hat⟩ := Option.bind_eq_some_iff.1 h
    exact ih inner (ordered_array_iff.1 hv _ (List.mem_of_getElem? hget)) hat
  | case4 => cases h

end Value

/-! ## Layouts -/

namespace Layout

variable {l l' new : Layout} {key : String} {v : Value} {path : Path}

theorem ordered_nil : Layout.Ordered [] :=
  Layout.ordered_iff.2 ⟨List.Pairwise.nil, by simp⟩

theorem Ordered.get? (hl : l.Ordered) (hv : l.get? key = some v) : v.Ordered :=
  (Layout.ordered_iff.1 hl).2 _ (Keyed.mem_of_get? hv)

theorem Ordered.insert (hl : l.Ordered) (key : String) (hv : v.Ordered) :
    Layout.Ordered (Keyed.insert l key v) := by
  obtain ⟨hsorted, hall⟩ := Layout.ordered_iff.1 hl
  refine Layout.ordered_iff.2 ⟨hsorted.insert key v, ?_⟩
  intro e he
  rcases Keyed.mem_insert he with rfl | he
  · exact hv
  · exact hall e he

theorem Ordered.erase (hl : l.Ordered) (key : String) : Layout.Ordered (Keyed.erase l key) := by
  obtain ⟨hsorted, hall⟩ := Layout.ordered_iff.1 hl
  refine Layout.ordered_iff.2 ⟨hsorted.erase key, ?_⟩
  intro e he
  exact hall e ((List.mem_filter.1 he).1)

theorem Ordered.at? (hl : l.Ordered) (h : l.at? path = some l') : l'.Ordered :=
  Value.Ordered.at? (v := .object l) hl (Layout.at?_eq_some_iff.1 h)

end Layout

theorem Value.Ordered.replace? {v v' new : Value} {path : Path} (hv : v.Ordered)
    (hnew : new.Ordered) (h : v.replace? path new = some v') : v'.Ordered := by
  fun_induction Value.replace? v path new generalizing v' with
  | case1 =>
    cases h
    exact hnew
  | case2 fields key path new ih =>
    simp only [bind, Option.bind_eq_some_iff] at h
    obtain ⟨old, hold, inner, hinner, he⟩ := h
    cases he
    have hfields : Layout.Ordered fields := hv
    have hin := ih old (hfields.get? hold) hnew hinner
    exact hfields.insert key hin
  | case3 items i path new ih =>
    simp only [bind, Option.bind_eq_some_iff] at h
    obtain ⟨old, hold, inner, hinner, he⟩ := h
    cases he
    have hitems := Value.ordered_array_iff.1 hv
    have hin := ih old (hitems old (List.mem_of_getElem? hold)) hnew hinner
    refine Value.ordered_array_iff.2 fun item hitem => ?_
    rcases List.mem_or_eq_of_mem_set hitem with hitem | rfl
    · exact hitems item hitem
    · exact hin
  | case4 => simp at h

/-- What stands at a place of an ordered value already changes nothing when it is put there. -/
theorem Value.Ordered.replace?_self {v w : Value} {path : Path} (hv : v.Ordered)
    (hw : v.at? path = some w) : v.replace? path w = some v := by
  fun_induction Value.at? v path with
  | case1 v =>
    cases hw
    simp [Value.replace?]
  | case2 fields key path ih =>
    obtain ⟨inner, hget, hat⟩ := Option.bind_eq_some_iff.1 hw
    obtain ⟨hsorted, hall⟩ := Value.ordered_object_iff.1 hv
    have hinner := ih inner (hall _ (Keyed.mem_of_get? hget)) hat
    simp [Value.replace?, hget, hinner, hsorted.insert_eq_self hget]
  | case3 items i path ih =>
    obtain ⟨inner, hget, hat⟩ := Option.bind_eq_some_iff.1 hw
    have hinner := ih inner (Value.ordered_array_iff.1 hv _ (List.mem_of_getElem? hget)) hat
    obtain ⟨hi, rfl⟩ := List.getElem?_eq_some_iff.1 hget
    simp [Value.replace?, hi, hinner]
  | case4 => cases hw

theorem Layout.Ordered.replace?_self {l l' : Layout} {path : Path} (hl : l.Ordered)
    (hat : l.at? path = some l') : l.replace? path l' = some l :=
  Layout.replace?_eq_some_iff.2
    (Value.Ordered.replace?_self (v := .object l) hl (Layout.at?_eq_some_iff.1 hat))

theorem Layout.Ordered.replace? {l l' new : Layout} {path : Path} (hl : l.Ordered)
    (hnew : new.Ordered) (h : l.replace? path new = some l') : l'.Ordered :=
  Value.Ordered.replace? (v := .object l) hl hnew (Layout.replace?_eq_some_iff.1 h)

end TypedDocs
