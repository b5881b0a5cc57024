import Mathlib.Data.List.Forall2
import TypedDocs.Proofs.Hierarchy.Resolution
import TypedDocs.Proofs.Query.Steps

/-!
# Values that agree with a query

A stored value *agrees* with a query under a declared type when comparing them in full is a match.
Scalars agree with themselves, arrays when their items agree place by place, bags and objects when
every field that is asked for agrees:

    (∀ e ∈ query, FieldAgrees h c layout e) → matchFields h true c layout query = .ok true
                                                                          (matchFields_eq_true)
-/

namespace TypedDocs

namespace Query

variable {ρ : Type} [Pattern.Engine ρ]
variable {h : Hierarchy} {classId key : String} {layout query : Layout} {type : AttributeType}

/-! ## Definitions -/

/-- A stored value of a type is a match of a query. -/
def Agrees (h : Hierarchy) (type : AttributeType) (value wanted : Value) : Prop :=
  match type with
  | .bagOf _ => matchBag h true type.elementClass value wanted = .ok true
  | _ => matchValue h true type.elementClass value wanted = .ok .hit

/-- A field that a query asks for is in a layout and agrees; `null` asks for nothing. -/
inductive FieldAgrees (h : Hierarchy) (classId : String) (layout : Layout) :
    String × Value → Prop where
  | null {key : String} : FieldAgrees h classId layout (key, .null)
  | internal {key : String} {value wanted : Value} (hk : Key.isInternal key = true)
    (hv : layout.get? key = some value) (ha : matchValue h true none value wanted = .ok .hit) :
    FieldAgrees h classId layout (key, wanted)
  | typed {key : String} {value wanted : Value} {attr : ResolvedAttribute}
    (hk : Key.isInternal key = false) (hattr : h.resolveKey classId key = .ok attr)
    (hv : layout.get? attr.wire = some value) (ha : Agrees h attr.type value wanted) :
    FieldAgrees h classId layout (key, wanted)

/-! ## Scalars -/

theorem ofBool_sameValue_self (v : Value) : Verdict.ofBool (v.sameValue v) = .hit := by
  rw [Value.sameValue_refl]
  rfl

theorem matchValue_null (declared : Option String) :
    matchValue h true declared .null .null = .ok .hit := by
  simp only [matchValue]
  rfl

theorem matchValue_scalar (declared : Option String) {v : Value} (hv : v.isScalar = true) :
    matchValue h true declared v v = .ok .hit := by
  cases v with
  | bool b => simp only [matchValue, ofBool_sameValue_self]
  | number n => simp only [matchValue, ofBool_sameValue_self]
  | string s => simp only [matchValue, ofBool_sameValue_self]
  | _ => cases hv

theorem agrees_null (type : AttributeType) : Agrees h type .null .null := by
  cases type with
  | bagOf element =>
    show matchBag h true _ .null .null = .ok true
    simp only [matchBag]
    rfl
  | _ => exact matchValue_null _

theorem agrees_scalar {v : Value} (hv : v.isScalar = true) : Agrees h type v v := by
  cases type with
  | bagOf element =>
    show matchBag h true _ v v = .ok true
    cases v with
    | object fields => cases hv
    | _ => simp only [matchBag, Value.sameValue_refl]
  | _ => exact matchValue_scalar _ hv

/-! ## Fields one by one -/

theorem matchFields_cons_null {wanted : Value} (hn : wanted.isNull = true) (rest : Layout) :
    matchFields h true classId layout ((key, wanted) :: rest) =
      matchFields h true classId layout rest := by
  rw [matchFields_cons, hn]
  simp only [if_true]

theorem matchFields_cons_internal {value wanted : Value} (hk : Key.isInternal key = true)
    (hv : layout.get? key = some value) (ha : matchValue h true none value wanted = .ok .hit)
    (rest : Layout) :
    matchFields h true classId layout ((key, wanted) :: rest) =
      matchFields h true classId layout rest := by
  cases hn : wanted.isNull with
  | true => exact matchFields_cons_null hn rest
  | false =>
    rw [matchFields_cons, hn, hk, hv]
    simp only [Bool.false_eq_true, if_false, if_true, ha, ok_bind, Verdict.isHit]

/-- What agrees with a query under the type of an attribute is a match for the attribute. -/
theorem Agrees.matchTyped_eq {value wanted : Value} {attr : ResolvedAttribute}
    (ha : Agrees h attr.type value wanted) : matchTyped h true attr value wanted = .ok true := by
  obtain ⟨⟨name, type⟩, owner, attrKey⟩ := attr
  cases type with
  | bagOf element => exact ha
  | _ =>
    show (matchValue h true _ value wanted).map Verdict.isHit = .ok true
    rw [ResolvedAttribute.elementClass, show matchValue h true _ value wanted = .ok .hit from ha]
    rfl

theorem matchFields_cons_typed {value wanted : Value} {attr : ResolvedAttribute}
    (hk : Key.isInternal key = false) (hattr : h.resolveKey classId key = .ok attr)
    (hv : layout.get? attr.wire = some value) (ha : Agrees h attr.type value wanted)
    (rest : Layout) :
    matchFields h true classId layout ((key, wanted) :: rest) =
      matchFields h true classId layout rest := by
  cases hn : wanted.isNull with
  | true => exact matchFields_cons_null hn rest
  | false =>
    rw [matchFields_cons, hn, hk, hattr]
    simp only [Bool.false_eq_true, if_false, if_true, ok_bind, hv, ha.matchTyped_eq]

/-- Where every field that is asked for agrees, there is a match. -/
theorem matchFields_eq_true (hq : ∀ e ∈ query, FieldAgrees h classId layout e) :
    matchFields h true classId layout query = .ok true := by
  induction query with
  | nil => rw [matchFields]
  | cons e rest ih =>
    rw [List.forall_mem_cons] at hq
    rw [← ih hq.2]
    cases hq.1 with
    | null => exact matchFields_cons_null rfl rest
    | internal hk hv ha => exact matchFields_cons_internal hk hv ha rest
    | typed hk hattr hv ha => exact matchFields_cons_typed hk hattr hv ha rest

/-! ## Arrays and bags -/

theorem matchPlaces_eq_hit {declared : Option String} {items patterns : List Value}
    (hi : List.Forall₂ (fun item p => matchValue h true declared item p = .ok .hit) items
      patterns) : matchPlaces h true declared items patterns = .ok .hit := by
  induction hi with
  | nil => rw [matchPlaces]
  | cons hp hrest ih => rw [matchPlaces_cons_of_hit hp, ih]

/-- Arrays whose items agree place by place agree. -/
theorem agrees_array {element : AttributeType} {items patterns : List Value}
    (he : element.isElement = true)
    (hi : List.Forall₂ (Agrees h element) items patterns) :
    Agrees h (.arrayOf element) (.array items) (.array patterns) := by
  have hplaces : List.Forall₂ (fun item p =>
      matchValue h true element.elementClass item p = .ok .hit) items patterns := by
    refine hi.imp fun item p ha => ?_
    cases element with
    | bagOf inner => cases he
    | _ => exact ha
  show matchValue h true _ (.array items) (.array patterns) = .ok .hit
  rw [matchValue_array_array, if_neg (by simp [hi.length_eq])]
  exact matchPlaces_eq_hit hplaces

theorem matchEntries_eq_true {declared : Option String} {bag patterns : Layout}
    (hp : ∀ e ∈ patterns, ∃ entry, bag.get? e.1 = some entry ∧
      matchValue h true declared entry e.2 = .ok .hit) :
    matchEntries h true declared bag patterns = .ok true := by
  induction patterns with
  | nil => rw [matchEntries]
  | cons e rest ih =>
    obtain ⟨⟨entry, hv, ha⟩, hrest⟩ := List.forall_mem_cons.1 hp
    rw [matchEntries_cons, hv]
    split
    · exact ih hrest
    · simpa [ha, Verdict.isHit] using ih hrest

/-- Bags agree when every entry that is asked for is there and agrees. -/
theorem agrees_bag {element : AttributeType} {bag patterns : Layout}
    (he : element.isElement = true)
    (hp : ∀ e ∈ patterns, ∃ entry, bag.get? e.1 = some entry ∧ Agrees h element entry e.2) :
    Agrees h (.bagOf element) (.object bag) (.object patterns) := by
  show matchBag h true _ (.object bag) (.object patterns) = .ok true
  rw [matchBag]
  refine matchEntries_eq_true fun e hmem => ?_
  obtain ⟨entry, hv, ha⟩ := hp e hmem
  refine ⟨entry, hv, ?_⟩
  cases element with
  | bagOf inner => cases he
  | _ => exact ha

/-! ## Embedded objects -/

/-- An embedded object that has the nearest class of its type is of that type. -/
theorem embeddedClass_of_tag? {base : String} (hb : h.concreteClass classId = .ok base)
    (ht : Document.tag? layout = some base) :
    h.embeddedClass (some classId) layout = some classId := by
  unfold Hierarchy.embeddedClass
  simp only [ht]
  split
  · next hs =>
    rw [Hierarchy.isSubtype_antisymm hs (Hierarchy.isSubtype_concreteClass hb)]
  · rfl

/-- Embedded objects agree when their fields do and the query is no search pattern. -/
theorem agrees_object {base : String} (hb : h.concreteClass classId = .ok base)
    (ht : Document.tag? layout = some base) (hp : pattern? query = none)
    (hq : ∀ e ∈ query, FieldAgrees h classId layout e) :
    Agrees h (.instanceOf classId) (.object layout) (.object query) := by
  show matchValue h true (some classId) (.object layout) (.object query) = .ok .hit
  rw [matchValue]
  simp only [hp, Option.isSome_none, Bool.false_eq_true, if_false, embeddedClass_of_tag? hb ht,
    matchFields_eq_true hq, missUndeclared]
  rfl

end Query

end TypedDocs
