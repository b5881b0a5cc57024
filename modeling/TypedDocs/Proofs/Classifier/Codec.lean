import TypedDocs.Classifier.Codec

/-!
# Classifiers and their nodes

What is written for a classifier is read back as the classifier: each kind of type by its label, a
type inside another one by the same recursion, and the fields that are left out when they are
missing as missing ones.

    AttributeType.ofJson? t.toJson = some t                                (ofJson?_toJson)
    Classifier.ofJson? c.toJson = some c                                   (ofJson?_toJson)
-/

namespace TypedDocs

/-- A list is read back item by item. -/
theorem mapM_map_eq_some {α β : Type} {write : α → β} {read : β → Option α} {l : List α}
    (hl : ∀ a ∈ l, read (write a) = some a) : (l.map write).mapM read = some l := by
  induction l with
  | nil => rfl
  | cons a rest ih =>
    obtain ⟨ha, hrest⟩ := List.forall_mem_cons.1 hl
    rw [List.map_cons, List.mapM_cons, ha, ih hrest]
    rfl

/-! ## Types -/

namespace AttributeType

theorem isReadable_toJson (t : AttributeType) : t.toJson.isReadable = true := by
  induction t with
  | arrayOf element ih =>
    simp [toJson, Json.isReadable, Json.membersReadable, ih]
  | bagOf element ih =>
    simp [toJson, Json.isReadable, Json.membersReadable, ih]
  | _ => rfl

/-- A type is read back wherever it stands, also inside another one. -/
theorem ofNode?_toJson (t : AttributeType) (inner : Bool) : ofNode? inner t.toJson = some t := by
  induction t generalizing inner with
  | arrayOf element ih =>
    have hread : ofNode? inner (arrayOf element).toJson =
        (ofNode? true element.toJson).map .arrayOf := rfl
    rw [hread, ih]
    rfl
  | bagOf element ih =>
    have hread : ofNode? inner (bagOf element).toJson =
        (ofNode? true element.toJson).map .bagOf := rfl
    rw [hread, ih]
    rfl
  | _ => rfl

theorem ofJson?_toJson (t : AttributeType) : ofJson? t.toJson = some t := by
  rw [ofJson?, isReadable_toJson, if_pos rfl, ofNode?_toJson]

end AttributeType

/-! ## Attributes and classifiers -/

theorem Attribute.ofJson?_toJson (a : Attribute) : ofJson? a.toJson = some a := by
  have hfields : Json.record? ["name", "type"] a.toJson =
      some [some (.string a.name), some a.type.toJson] := rfl
  rw [ofJson?, hfields]
  simp only [AttributeType.ofJson?_toJson]
  rfl

theorem ClassifierKind.ofJson?_label (k : ClassifierKind) : ofJson? (.string k.label) = some k := by
  cases k <;> rfl

namespace Classifier

theorem attributesOfJson?_toJson (attributes : List Attribute) :
    attributesOfJson? (some (.array (attributes.map Attribute.toJson))) = some attributes :=
  mapM_map_eq_some fun a _ => Attribute.ofJson?_toJson a

/-- The fields of a written classifier: a missing parent or domain is left out. -/
theorem record?_toJson (c : Classifier) :
    Json.record? ["id", "kind", "extends", "domain", "attributes"] c.toJson =
      some [some (.string c.id), some (.string c.kind.label), c.parent.map .string,
        c.domain.map .string, some (.array (c.attributes.map Attribute.toJson))] := by
  rw [toJson]
  cases c.parent <;> cases c.domain <;> rfl

theorem optionalString?_map (text : Option String) :
    Json.optionalString? (text.map .string) = some text := by
  cases text <;> rfl

theorem ofJson?_toJson (c : Classifier) : ofJson? c.toJson = some c := by
  rw [ofJson?, record?_toJson]
  simp only [ClassifierKind.ofJson?_label, optionalString?_map, attributesOfJson?_toJson]
  rfl

end Classifier

end TypedDocs
