import TypedDocs.Proofs.Assignment.Shape
import TypedDocs.Proofs.Value.Order

/-!
# Assignment keeps the order of fields

From ordered values an assignment makes ordered ones, as it writes field after field into layouts
that are ordered: a typed value is ordered, and so is a layout into which entries with ordered
values are written.

    v.Ordered → typedValue h strict name type v = .ok w → w.Ordered         (ordered_typedValue)
    target.Ordered → values.Ordered →
      assign h strict c target values = .ok result → result.Ordered         (ordered_assign)
-/

namespace TypedDocs.Assignment

variable {h : Hierarchy} {strict : Bool}

theorem ordered_withTag {classId : String} {target tagged : Layout} (ho : target.Ordered)
    (ht : withTag h classId target = .ok tagged) : tagged.Ordered := by
  rcases withTag_eq_ok ht with ⟨tag, -, rfl⟩ | ⟨c, -, -, rfl⟩
  · exact ho
  · exact ho.insert Document.classKey (Value.ordered_of_isScalar rfl)

theorem ordered_startEmbedded {classId c : String} {fields start : Layout}
    (hs : startEmbedded h classId fields = .ok (c, start)) : start.Ordered := by
  obtain ⟨-, base, -, rfl⟩ := startEmbedded_eq_ok hs
  exact Layout.ordered_nil.insert Document.classKey (Value.ordered_of_isScalar rfl)

/-- The entries of a bag keep their keys. -/
theorem keys_embedEntries {classId : String} {entries built : List (String × Value)}
    (hb : embedEntries h strict classId entries = .ok built) :
    built.map Prod.fst = entries.map Prod.fst := by
  have hall := embedEntries_eq_ok_iff.1 hb
  clear hb
  induction hall with
  | nil => rfl
  | cons hab _ ih => rw [List.map_cons, List.map_cons, hab.1, ih]

theorem sorted_embedEntries {classId : String} {entries built : List (String × Value)}
    (hs : Keyed.Sorted entries) (hb : embedEntries h strict classId entries = .ok built) :
    Keyed.Sorted built := by
  have hpair : (entries.map Prod.fst).Pairwise (· < ·) := List.pairwise_map.2 hs
  rw [← keys_embedEntries hb] at hpair
  exact List.pairwise_map.1 hpair

/-- Under every type a scalar is copied, if it is not refused. -/
theorem eq_of_typedValue_scalar {v w : Value} {name : String} {type : AttributeType}
    (hv : v.isScalar = true) (ht : typedValue h strict name type v = .ok w) : w = v := by
  have hcopy : typedValue h strict name type v = .ok v ∨
      typedValue h strict name type v = .error (.wrongType name .array) := by
    cases v with
    | bool b | number n | string s =>
      cases type with
      | arrayOf element => cases strict <;> simp [typedValue]
      | _ => exact .inl rfl
    | _ => cases hv
  rcases hcopy with he | he
  · rw [he] at ht
    cases ht
    rfl
  · rw [he] at ht
    cases ht

mutual

/-- Under every type an ordered value gives an ordered one. -/
theorem ordered_typedValue : ∀ (v : Value) {name : String} {type : AttributeType} {w : Value},
    v.Ordered → typedValue h strict name type v = .ok w → w.Ordered
  | .array items, name, type, w, hv, ht => by
    unfold typedValue at ht
    split at ht
    · next c =>
      cases hb : embedItems h strict c items with
      | error fault =>
        rw [hb] at ht
        cases ht
      | ok built =>
        rw [hb] at ht
        cases ht
        exact Value.ordered_array_iff.2
          (ordered_embedItems items (Value.ordered_array_iff.1 hv) hb)
    · cases ht
      exact hv
  | .object fields, name, type, w, hv, ht => by
    have hall := (Value.ordered_object_iff.1 hv).2
    unfold typedValue at ht
    split at ht
    · split at ht
      · cases ht
      · cases ht
        exact hv
    · next c =>
      split at ht
      · cases ht
      · next c' start hstart =>
        split at ht
        · cases ht
        · next layout hlayout =>
          cases ht
          exact ordered_assignEntries fields (ordered_startEmbedded hstart) hall hlayout
    · next c =>
      cases hb : embedEntries h strict c fields with
      | error fault =>
        rw [hb] at ht
        cases ht
      | ok built =>
        rw [hb] at ht
        cases ht
        have hsorted := sorted_embedEntries (Value.ordered_object_iff.1 hv).1 hb
        exact Value.ordered_object_iff.2 ⟨hsorted, ordered_embedEntries fields hall hb⟩
    · cases ht
      exact hv
  | .null, name, type, w, hv, ht => by
    rw [typedValue] at ht
    cases ht
    exact hv
  | .bool b, name, type, w, hv, ht | .number b, name, type, w, hv, ht
  | .string b, name, type, w, hv, ht => by
    rw [eq_of_typedValue_scalar rfl ht]
    exact hv

/-- An embedded object is built of ordered values. -/
theorem ordered_embed : ∀ (v : Value) {classId : String} {w : Value}, v.Ordered →
    embed h strict classId v = .ok w → w.Ordered
  | .object fields, classId, w, hv, ht => by
    have hall := (Value.ordered_object_iff.1 hv).2
    rw [embed] at ht
    split at ht
    · cases ht
    · next c' start hstart =>
      split at ht
      · cases ht
      · next layout hlayout =>
        cases ht
        exact ordered_assignEntries fields (ordered_startEmbedded hstart) hall hlayout
  | .array items, classId, w, hv, ht | .null, classId, w, hv, ht | .bool b, classId, w, hv, ht
  | .number b, classId, w, hv, ht | .string b, classId, w, hv, ht => by
    rw [embed] at ht
    · cases ht
      exact hv
    · simp

theorem ordered_embedItems : ∀ (items : List Value) {classId : String} {built : List Value},
    (∀ item ∈ items, item.Ordered) → embedItems h strict classId items = .ok built →
    ∀ item ∈ built, item.Ordered
  | [], classId, built, hi, hb => by
    cases hb
    simp
  | item :: rest, classId, built, hi, hb => by
    obtain ⟨hitem, hrest⟩ := List.forall_mem_cons.1 hi
    simp only [embedItems, bind_eq_ok_iff, pure_eq_ok, Except.ok.injEq] at hb
    obtain ⟨v, hv, vs, hvs, rfl⟩ := hb
    exact List.forall_mem_cons.2 ⟨ordered_embed item hitem hv, ordered_embedItems rest hrest hvs⟩

theorem ordered_embedEntries : ∀ (entries : List (String × Value)) {classId : String}
    {built : List (String × Value)}, (∀ e ∈ entries, e.2.Ordered) →
    embedEntries h strict classId entries = .ok built → ∀ e ∈ built, e.2.Ordered
  | [], classId, built, hi, hb => by
    cases hb
    simp
  | (key, entry) :: rest, classId, built, hi, hb => by
    obtain ⟨hentry, hrest⟩ := List.forall_mem_cons.1 hi
    simp only [embedEntries, bind_eq_ok_iff, pure_eq_ok, Except.ok.injEq] at hb
    obtain ⟨v, hv, vs, hvs, rfl⟩ := hb
    exact List.forall_mem_cons.2
      ⟨ordered_embed entry hentry hv, ordered_embedEntries rest hrest hvs⟩

/-- Every entry writes an ordered value into the layout. -/
theorem ordered_assignEntries : ∀ (entries : List (String × Value)) {classId : String}
    {target result : Layout}, target.Ordered → (∀ e ∈ entries, e.2.Ordered) →
    assignEntries h strict classId target entries = .ok result → result.Ordered
  | [], classId, target, result, ho, hi, hr => by
    cases hr
    exact ho
  | (key, value) :: rest, classId, target, result, ho, hi, hr => by
    obtain ⟨hvalue, hrest⟩ := List.forall_mem_cons.1 hi
    rcases assignEntries_cons_eq_ok hr with
      ⟨-, hnext⟩ | ⟨attr, typed, tagged, -, -, htyped, htagged, hnext⟩
    · exact ordered_assignEntries rest (ho.insert key hvalue) hrest hnext
    · have hto : tagged.Ordered := by
        rcases htagged with rfl | ⟨_, owner, -, ht⟩
        · exact ho
        · exact ordered_withTag ho ht
      have hwritten := hto.insert attr.wire (ordered_typedValue value hvalue htyped)
      exact ordered_assignEntries rest hwritten hrest hnext

end

theorem ordered_assign {classId : String} {target values result : Layout}
    (ho : target.Ordered) (hv : values.Ordered)
    (ha : assign h strict classId target values = .ok result) : result.Ordered := by
  rw [assign] at ha
  cases ht : withTag h classId target with
  | error fault =>
    rw [ht] at ha
    cases ha
  | ok tagged =>
    simp only [ht] at ha
    exact ordered_assignEntries values (ordered_withTag ho ht) (Layout.ordered_iff.1 hv).2 ha

end TypedDocs.Assignment
