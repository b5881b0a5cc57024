import TypedDocs.Proofs.Assignment.Shape
import TypedDocs.Proofs.Query.Agreement
import TypedDocs.Value.Ordered

/-!
# Assigned values agree

What assignment makes of a value of its shape agrees with the value, and with itself: the attribute
that a field is written for is found again from the field's key, and from the key it is stored
under.

    Shaped h type value → typedValue h strict name type value = .ok typed →
      Agrees h type typed value ∧ Agrees h type typed typed              (madeAgrees_of_shaped)
-/

namespace TypedDocs.Query

open Assignment

variable {ρ : Type} [Pattern.Engine ρ]
variable {h : Hierarchy} {strict : Bool} {classId other : String} {start fields : Layout}
  {writes : List (String × Value)}

/-! ## Definitions -/

/-- Every field under an internal key that agrees with itself. -/
def Internal (h : Hierarchy) (start : Layout) : Prop :=
  ∀ e ∈ start, Key.isInternal e.1 = true ∧ matchValue h true none e.2 e.2 = .ok .hit

/-- What assignment makes of a value of a type agrees with the value and with itself. -/
def MadeAgrees (h : Hierarchy) (strict : Bool) (type : AttributeType) (value : Value) : Prop :=
  ∀ name typed, typedValue h strict name type value = .ok typed →
    Agrees h type typed value ∧ Agrees h type typed typed

/-- What assignment makes of every field agrees with the field and with itself. -/
def FieldsAgree (h : Hierarchy) (strict : Bool) (classId : String) (fields : Layout) : Prop :=
  ∀ e ∈ fields, ∀ attr, h.resolveKey classId e.1 = .ok attr → MadeAgrees h strict attr.type e.2

/-! ## Fields -/

/-- A layout over which fields have been written has every field. -/
theorem fieldAgrees_written (hws : List.Forall₂ (Writes h strict classId) fields writes)
    (hn : (writes.map Prod.fst).Nodup) (hinternal : ∀ e ∈ fields, Key.isInternal e.1 = false)
    (ha : FieldsAgree h strict classId fields) (start : Layout) :
    ∀ e ∈ fields, FieldAgrees h classId (Keyed.overlay start writes) e := by
  intro e he
  obtain ⟨w, hw, hew⟩ := exists_of_mem_left hws he
  obtain ⟨attr, hattr, htyped, hwire⟩ := hew.exists_attribute (hinternal e he)
  refine .typed (hinternal e he) hattr ?_ (ha e he attr hattr attr.name w.2 htyped).1
  rw [← hwire, Keyed.get?_overlay hn, Keyed.get?_of_mem hn hw]
  rfl

/-- It has every field of its own, too, when what is stored is read from a classifier for which it
denotes the same attributes. -/
theorem fieldAgrees_own (hws : List.Forall₂ (Writes h strict classId) fields writes)
    (hs : start.Sorted) (hstart : Internal h start)
    (hinternal : ∀ e ∈ fields, Key.isInternal e.1 = false)
    (hmixin : ∀ e ∈ fields, h.ReadsMixin e.1) (ha : FieldsAgree h strict classId fields)
    (ho : other = classId ∨ h.concreteClass classId = .ok other) :
    ∀ e ∈ Keyed.overlay start writes, FieldAgrees h other (Keyed.overlay start writes) e := by
  intro e he
  have hget : (Keyed.overlay start writes).get? e.1 = some e.2 :=
    (Keyed.Sorted.overlay hs writes).get?_eq_some_iff.2 he
  rcases Keyed.mem_overlay he with hold | hw
  · obtain ⟨hk, hself⟩ := hstart e hold
    exact .internal hk hget hself
  · obtain ⟨e', he', hew⟩ := exists_of_mem_right hws hw
    obtain ⟨attr, hattr, htyped, hwire⟩ := hew.exists_attribute (hinternal e' he')
    have hk := Hierarchy.isInternal_wire_of_resolveKey hattr
    have hread := Hierarchy.resolveKey_wire (hmixin e' he') hattr ho
    obtain ⟨key, value⟩ := e
    rw [← hwire] at hk hread
    refine .typed hk hread ?_ (ha e' he' attr hattr attr.name value htyped).2
    rw [← hwire, hget]

/-- Nothing that is written makes a search pattern of a layout. -/
theorem pattern?_overlay (hws : List.Forall₂ (Writes h strict classId) fields writes)
    (hn : (writes.map Prod.fst).Nodup) (hs : fields.Sorted) (hstart : start.get? patternKey = none)
    (hinternal : ∀ e ∈ fields, Key.isInternal e.1 = false) (hpattern : pattern? fields = none)
    (hmixin : ∀ e ∈ fields, h.ReadsMixin e.1)
    (hshape : ∀ e ∈ fields, ∀ r, h.resolveKey classId e.1 = .ok r → Shaped h r.type e.2) :
    pattern? (Keyed.overlay start writes) = none := by
  rw [pattern?, Option.map_eq_none_iff, Option.bind_eq_none_iff] at hpattern ⊢
  intro stored hget
  rw [Keyed.get?_overlay hn, hstart, Option.or_none] at hget
  obtain ⟨e, he, hew⟩ := exists_of_mem_right hws (Keyed.mem_of_get? hget)
  obtain ⟨attr, hattr, htyped, hwire⟩ := hew.exists_attribute (hinternal e he)
  cases stored with
  | string text =>
    -- Only a field with the very key is stored under it, and only a text is stored as one.
    have hparse : Key.parse attr.wire = .plain attr.wire := by
      rw [← hwire]
      show Key.parse patternKey = .plain patternKey
      decide
    have hkey : e.1 = patternKey := by
      rw [Hierarchy.key_eq_wire (hmixin e he) hattr hparse, ← hwire]
    have hvalue := eq_string_of_typedValue (hshape e he attr hattr) htyped
    have hfield : fields.get? patternKey = some (.string text) := by
      rw [← hkey, ← hvalue]
      exact hs.get?_eq_some_iff.2 he
    exact hpattern _ hfield
  | _ => rfl

/-! ## Values -/

theorem madeAgrees_object (hsorted : fields.Sorted)
    (hinternal : ∀ e ∈ fields, Key.isInternal e.1 = false) (hpattern : pattern? fields = none)
    (hapart : fields.Pairwise fun a b => ∀ r r', h.resolveKey classId a.1 = .ok r →
      h.resolveKey classId b.1 = .ok r' → r.wire ≠ r'.wire)
    (hmixin : ∀ e ∈ fields, h.ReadsMixin e.1)
    (hshape : ∀ e ∈ fields, ∀ r, h.resolveKey classId e.1 = .ok r → Shaped h r.type e.2)
    (ha : FieldsAgree h strict classId fields) :
    MadeAgrees h strict (.instanceOf classId) (.object fields) := by
  intro name typed ht
  obtain ⟨base, writes, hb, hws, rfl⟩ := typedValue_object hinternal ht
  have hn := nodup_writes hws hinternal hapart
  have hstart : Internal h [(Document.classKey, .string base)] := by
    intro e he
    rw [List.mem_singleton] at he
    rw [he]
    exact ⟨Document.isInternal_classKey, matchValue_scalar none rfl⟩
  have htag : Document.tag? (Keyed.overlay [(Document.classKey, .string base)] writes) =
      some base := by
    rw [Document.tag?, get?_overlay_of_isInternal hws hinternal _ Document.isInternal_classKey]
    rfl
  refine ⟨agrees_object hb htag hpattern ?_, agrees_object hb htag ?_ ?_⟩
  · exact fieldAgrees_written hws hn hinternal ha _
  · exact pattern?_overlay hws hn hsorted rfl hinternal hpattern hmixin hshape
  · exact fieldAgrees_own hws (List.pairwise_singleton _ _) hstart hinternal hmixin ha (.inl rfl)

theorem madeAgrees_array {element : AttributeType} {items : List Value}
    (he : element.isElement = true) (ha : ∀ item ∈ items, MadeAgrees h strict element item) :
    MadeAgrees h strict (.arrayOf element) (.array items) := by
  intro name typed ht
  obtain ⟨built, rfl, hbuilt⟩ := (typedValue_array_eq_ok_iff he).1 ht
  have hagree : List.Forall₂ (fun item b => Agrees h element b item ∧ Agrees h element b b)
      items built := by
    refine ((List.forall₂_and_left items built).2 ⟨fun _ hm => hm, hbuilt⟩).imp ?_
    exact fun item b hb => ha item hb.1 name b hb.2
  refine ⟨agrees_array he (hagree.imp fun item b hb => hb.1).flip, agrees_array he ?_⟩
  refine List.forall₂_same.2 fun b hb => ?_
  obtain ⟨item, -, -, hself⟩ := exists_of_mem_right hagree hb
  exact hself

theorem madeAgrees_bag {element : AttributeType} (he : element.isElement = true)
    (hsorted : fields.Sorted) (ha : ∀ e ∈ fields, MadeAgrees h strict element e.2) :
    MadeAgrees h strict (.bagOf element) (.object fields) := by
  intro name typed ht
  obtain ⟨built, rfl, hbuilt⟩ := (typedValue_bag_eq_ok_iff he).1 ht
  have hagree : List.Forall₂ (fun e b => b.1 = e.1 ∧ Agrees h element b.2 e.2 ∧
      Agrees h element b.2 b.2) fields built := by
    refine ((List.forall₂_and_left fields built).2 ⟨fun _ hm => hm, hbuilt⟩).imp ?_
    exact fun e b hb => ⟨hb.2.1, ha e hb.1 name b.2 hb.2.2⟩
  have hkeys : built.map Prod.fst = fields.map Prod.fst := by
    rw [← List.forall₂_eq_eq_eq, List.forall₂_map_left_iff, List.forall₂_map_right_iff]
    exact (hagree.imp fun e b hb => hb.1).flip
  have hn : (built.map Prod.fst).Nodup := hkeys ▸ hsorted.nodup
  refine ⟨agrees_bag he fun e he => ?_, agrees_bag he fun b hb => ?_⟩
  · obtain ⟨b, hb, hkey, hquery, -⟩ := exists_of_mem_left hagree he
    exact ⟨b.2, by rw [← hkey, Keyed.get?_of_mem hn hb], hquery⟩
  · obtain ⟨e, -, -, -, hself⟩ := exists_of_mem_right hagree hb
    exact ⟨b.2, Keyed.get?_of_mem hn hb, hself⟩

theorem madeAgrees_of_shaped {type : AttributeType} {value : Value} (hs : Shaped h type value)
    (ho : value.Ordered) : MadeAgrees h strict type value := by
  induction hs with
  | null =>
    intro name typed ht
    rw [typedValue_null] at ht
    cases ht
    exact ⟨agrees_null _, agrees_null _⟩
  | scalar htype hv =>
    intro name typed ht
    rw [typedValue_of_isScalar htype] at ht
    cases ht
    exact ⟨agrees_scalar hv, agrees_scalar hv⟩
  | object hinternal hpattern hapart hmixin hshape ih =>
    obtain ⟨hsorted, hordered⟩ := Layout.ordered_iff.1 ho
    refine madeAgrees_object hsorted hinternal hpattern hapart hmixin hshape ?_
    exact fun e he attr hattr => ih e he attr hattr (hordered e he)
  | array he hi ih =>
    have hordered := Value.itemsOrdered_iff.1 ho
    exact madeAgrees_array he fun item hm => ih item hm (hordered item hm)
  | bag he hf ih =>
    obtain ⟨hsorted, hordered⟩ := Layout.ordered_iff.1 ho
    exact madeAgrees_bag he hsorted fun e hm => ih e hm (hordered e hm)

end TypedDocs.Query
