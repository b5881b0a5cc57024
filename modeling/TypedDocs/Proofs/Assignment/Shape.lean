import TypedDocs.Query
import TypedDocs.Proofs.Assignment.Collections
import TypedDocs.Proofs.Assignment.Overlay

/-!
# Values of the declared shape

A value has the *shape* of its type when it is `null`, a scalar under a scalar type, an object
under a class, or an array or a bag of such values; an object gives each attribute once, and
nothing but attributes.  What assignment makes of a value of its shape is known in full:

    typedValue h strict name (.instanceOf c) (.object fields) = .ok typed →
      ∃ base writes, h.concreteClass c = .ok base ∧
        Forall₂ (Writes h strict c) fields writes ∧
        typed = .object (overlay [(classKey, .string base)] writes)             (typedValue_object)
-/

namespace TypedDocs

/-! ## Definitions -/

namespace Assignment

/-- The value has the shape of its type. -/
inductive Shaped (h : Hierarchy) : AttributeType → Value → Prop where
  | null {type : AttributeType} : Shaped h type .null
  | scalar {type : AttributeType} {value : Value} (ht : type.isScalar = true)
    (hv : value.isScalar = true) : Shaped h type value
  | object {classId : String} {fields : Layout}
    (hinternal : ∀ e ∈ fields, Key.isInternal e.1 = false)
    (hpattern : Query.pattern? fields = none)
    (hapart : fields.Pairwise fun a b => ∀ r r', h.resolveKey classId a.1 = .ok r →
      h.resolveKey classId b.1 = .ok r' → r.wire ≠ r'.wire)
    (hmixin : ∀ e ∈ fields, h.ReadsMixin e.1)
    (hshape : ∀ e ∈ fields, ∀ r, h.resolveKey classId e.1 = .ok r → Shaped h r.type e.2) :
    Shaped h (.instanceOf classId) (.object fields)
  | array {element : AttributeType} {items : List Value} (he : element.isElement = true)
    (hi : ∀ item ∈ items, Shaped h element item) : Shaped h (.arrayOf element) (.array items)
  | bag {element : AttributeType} {fields : Layout} (he : element.isElement = true)
    (hf : ∀ e ∈ fields, Shaped h element e.2) : Shaped h (.bagOf element) (.object fields)

variable {h : Hierarchy} {strict : Bool} {name classId : String} {value typed : Value}
  {element : AttributeType}

/-! ## Null -/

theorem typedValue_null (type : AttributeType) :
    typedValue h strict name type .null = .ok .null := by
  rw [typedValue]

/-! ## Objects -/

theorem typedValue_object_eq_ok_iff {fields : Layout} :
    typedValue h strict name (.instanceOf classId) (.object fields) = .ok typed ↔
      ∃ c start layout, startEmbedded h classId fields = .ok (c, start) ∧
        assignEntries h strict c start fields = .ok layout ∧ typed = .object layout := by
  rw [typedValue]
  cases hs : startEmbedded h classId fields with
  | error fault => simp
  | ok begun =>
    obtain ⟨c, start⟩ := begun
    cases ha : assignEntries h strict c start fields with
    | error failure => simp [ha]
    | ok layout => simp [ha, eq_comm]

theorem get?_classKey_of_internal {fields : Layout}
    (hf : ∀ e ∈ fields, Key.isInternal e.1 = false) :
    fields.get? Document.classKey = none := by
  refine Keyed.get?_eq_none_of_not_mem fun hm => ?_
  obtain ⟨e, he, hk⟩ := List.mem_map.1 hm
  have hi := hf e he
  rw [hk, Document.isInternal_classKey] at hi
  cases hi

/-- An embedded object without a class of its own gets the nearest class of its type, and what its
fields write. -/
theorem typedValue_object {fields : Layout} (hf : ∀ e ∈ fields, Key.isInternal e.1 = false)
    (ht : typedValue h strict name (.instanceOf classId) (.object fields) = .ok typed) :
    ∃ base writes, h.concreteClass classId = .ok base ∧
      List.Forall₂ (Writes h strict classId) fields writes ∧
      typed = .object (Keyed.overlay [(Document.classKey, .string base)] writes) := by
  have hclass : (h.embeddedClass (some classId) fields).getD classId = classId := by
    unfold Hierarchy.embeddedClass
    rw [Document.tag?, get?_classKey_of_internal hf]
    rfl
  obtain ⟨c, start, layout, hs, ha, rfl⟩ := typedValue_object_eq_ok_iff.1 ht
  obtain ⟨hc, base, hb, rfl⟩ := startEmbedded_eq_ok hs
  rw [hclass] at hc
  obtain ⟨writes, hws, rfl⟩ := (assignEntries_eq_ok_iff (tag?_start base)
    (keepsTag_of_get? (get?_classKey_of_internal hf))).1 ha
  exact ⟨base, writes, hc ▸ hb, hc ▸ hws, rfl⟩

/-! ## Texts -/

/-- Only a text is typed as a text. -/
theorem eq_string_of_typedValue {type : AttributeType} {s : String} (hs : Shaped h type value)
    (ht : typedValue h strict name type value = .ok (.string s)) : value = .string s := by
  cases hs with
  | null =>
    rw [typedValue_null] at ht
    cases ht
  | scalar htype hv =>
    rw [typedValue_of_isScalar htype] at ht
    cases ht
    rfl
  | object hinternal =>
    obtain ⟨base, writes, -, -, htyped⟩ := typedValue_object hinternal ht
    cases htyped
  | array he hi =>
    obtain ⟨built, htyped, -⟩ := (typedValue_array_eq_ok_iff he).1 ht
    cases htyped
  | bag he hf =>
    obtain ⟨built, htyped, -⟩ := (typedValue_bag_eq_ok_iff he).1 ht
    cases htyped

/-! ## Lists side by side -/

section SideBySide

variable {α β : Type} {R : α → β → Prop} {as : List α} {bs : List β}

theorem exists_of_mem_left (hr : List.Forall₂ R as bs) {a : α} (ha : a ∈ as) :
    ∃ b ∈ bs, R a b := by
  induction hr with
  | nil => cases ha
  | cons hab hrest ih =>
    rcases List.mem_cons.1 ha with rfl | ha
    · exact ⟨_, List.mem_cons_self, hab⟩
    · obtain ⟨b, hb, hab⟩ := ih ha
      exact ⟨b, List.mem_cons_of_mem _ hb, hab⟩

theorem exists_of_mem_right (hr : List.Forall₂ R as bs) {b : β} (hb : b ∈ bs) :
    ∃ a ∈ as, R a b :=
  exists_of_mem_left hr.flip hb

end SideBySide

/-! ## What the fields of an object write -/

section Writes

variable {fields : Layout} {writes : List (String × Value)}

/-- A field that is no internal one writes its typed value where its attribute is stored. -/
theorem Writes.exists_attribute {e w : String × Value} (hw : Writes h strict classId e w)
    (hk : Key.isInternal e.1 = false) :
    ∃ attr, h.resolveKey classId e.1 = .ok attr ∧
      typedValue h strict attr.name attr.type e.2 = .ok w.2 ∧ w.1 = attr.wire := by
  cases hw with
  | internal hi =>
    rw [hk] at hi
    cases hi
  | typed _ hattr htyped => exact ⟨_, hattr, htyped, rfl⟩

/-- Fields of attributes that are stored apart write under different keys. -/
theorem nodup_writes (hws : List.Forall₂ (Writes h strict classId) fields writes)
    (hinternal : ∀ e ∈ fields, Key.isInternal e.1 = false)
    (hapart : fields.Pairwise fun a b => ∀ r r', h.resolveKey classId a.1 = .ok r →
      h.resolveKey classId b.1 = .ok r' → r.wire ≠ r'.wire) :
    (writes.map Prod.fst).Nodup := by
  induction hws with
  | nil => exact List.nodup_nil
  | @cons e w rest writes hw hrest ih =>
    obtain ⟨hfirst, hlater⟩ := List.forall_mem_cons.1 hinternal
    obtain ⟨hhead, htail⟩ := List.pairwise_cons.1 hapart
    rw [List.map_cons, List.nodup_cons]
    refine ⟨fun hm => ?_, ih hlater htail⟩
    obtain ⟨w', hw', hkey⟩ := List.mem_map.1 hm
    obtain ⟨e', he', hew'⟩ := exists_of_mem_right hrest hw'
    obtain ⟨attr, hattr, -, hwire⟩ := hw.exists_attribute hfirst
    obtain ⟨attr', hattr', -, hwire'⟩ := hew'.exists_attribute (hlater e' he')
    exact hhead e' he' attr attr' hattr hattr' (by rw [← hwire, ← hwire', hkey])

/-- Fields of attributes leave what stands under an internal key. -/
theorem get?_overlay_of_isInternal (hws : List.Forall₂ (Writes h strict classId) fields writes)
    (hinternal : ∀ e ∈ fields, Key.isInternal e.1 = false) (start : Layout) {key : String}
    (hk : Key.isInternal key = true) :
    (Keyed.overlay start writes).get? key = start.get? key := by
  refine Keyed.get?_overlay_of_not_mem (fun hm => ?_) start
  obtain ⟨w, hw, rfl⟩ := List.mem_map.1 hm
  obtain ⟨e, he, hew⟩ := exists_of_mem_right hws hw
  rw [hew.isInternal_eq, hinternal e he] at hk
  cases hk

end Writes

end Assignment

end TypedDocs
