import TypedDocs.Classifier.Basic
import TypedDocs.Json.Record

/-!
# Classifiers in JSON

A classifier is written as an object with its id, its kind, what it extends and its domain if
it has them, and its attributes; the type of an attribute as an object with its kind first.

A kind of type may also be given by its position among the kinds, inside another type.
-/

namespace TypedDocs

/-! ## Types -/

namespace AttributeType

/-- The kinds of types, in order. -/
inductive Kind where
  | string
  | number
  | boolean
  | date
  | refTo
  | instanceOf
  | arrayOf
  | bagOf
deriving DecidableEq, Repr

namespace Kind

/-- All kinds, in order. -/
def all : List Kind :=
  [.string, .number, .boolean, .date, .refTo, .instanceOf, .arrayOf, .bagOf]

/-- The written name of a kind. -/
def label : Kind → String
  | .string => "string"
  | .number => "number"
  | .boolean => "boolean"
  | .date => "date"
  | .refTo => "ref_to"
  | .instanceOf => "instance_of"
  | .arrayOf => "array_of"
  | .bagOf => "bag_of"

/-- The kind a node denotes: by name, or inside another type by position. -/
def ofJson? (inner : Bool) : Json → Option Kind
  | .string s => all.find? fun k => k.label == s
  | .number (.integer i) => if inner && 0 ≤ i then all[i.toNat]? else none
  | _ => none

end Kind

/-- The type of a kind, from its one field as a text and as a type. -/
def ofField? (kind : Kind) (text : Option String) (element : Option AttributeType) :
    Option AttributeType :=
  match kind with
  | .string => some .string
  | .number => some .number
  | .boolean => some .boolean
  | .date => some .date
  | .refTo => text.map .refTo
  | .instanceOf => text.map .instanceOf
  | .arrayOf => element.map .arrayOf
  | .bagOf => element.map .bagOf

/-- The name of the one field of a kind that has one. -/
def Kind.field? : Kind → Option String
  | .refTo => some "to"
  | .instanceOf | .arrayOf | .bagOf => some "of"
  | _ => none

/-- A node that may be a text or a type. -/
structure Part where
  node : Json
  type : Option AttributeType

/-- The type of members: one of them is the kind, the others may hold the field. -/
def ofParts? (inner : Bool) (parts : List (String × Part)) : Option AttributeType := do
  let tag ← ← Json.field? "kind" parts
  let kind ← Kind.ofJson? inner tag.node
  match kind.field? with
  | none => ofField? kind none none
  | some name =>
    let part ← ← Json.field? name parts
    ofField? kind part.node.string? part.type

/-- The type of an array: its kind, then its field. -/
def ofSequence? (inner : Bool) : List Part → Option AttributeType
  | [] => none
  | tag :: rest => do
    let kind ← Kind.ofJson? inner tag.node
    match kind.field?, rest with
    | none, [] => ofField? kind none none
    | some _, [part] => ofField? kind part.node.string? part.type
    | _, _ => none

mutual

/-- The type that a readable node denotes; `inner` inside another type. -/
def ofNode? (inner : Bool) : Json → Option AttributeType
  | .object members => ofParts? inner (partsOf members)
  | .array items => ofSequence? inner (sequenceOf items)
  | _ => none

/-- The members of a node, each also read as an inner type. -/
def partsOf : List (String × Json) → List (String × Part)
  | [] => []
  | (key, j) :: rest => (key, ⟨j, ofNode? true j⟩) :: partsOf rest

/-- The items of a node, each also read as an inner type. -/
def sequenceOf : List Json → List Part
  | [] => []
  | j :: rest => ⟨j, ofNode? true j⟩ :: sequenceOf rest

end

/-- The type that a node denotes. -/
def ofJson? (j : Json) : Option AttributeType := if j.isReadable then ofNode? false j else none

/-- The node of a type. -/
def toJson : AttributeType → Json
  | .string => .object [("kind", .string Kind.string.label)]
  | .number => .object [("kind", .string Kind.number.label)]
  | .boolean => .object [("kind", .string Kind.boolean.label)]
  | .date => .object [("kind", .string Kind.date.label)]
  | .refTo target => .object [("kind", .string Kind.refTo.label), ("to", .string target)]
  | .instanceOf classId =>
    .object [("kind", .string Kind.instanceOf.label), ("of", .string classId)]
  | .arrayOf element => .object [("kind", .string Kind.arrayOf.label), ("of", element.toJson)]
  | .bagOf element => .object [("kind", .string Kind.bagOf.label), ("of", element.toJson)]

end AttributeType

/-! ## Attributes -/

namespace Attribute

/-- The attribute that a node denotes. -/
def ofJson? (j : Json) : Option Attribute :=
  match Json.record? ["name", "type"] j with
  | some [some name, some type] => do
    return ⟨← name.string?, ← AttributeType.ofJson? type⟩
  | _ => none

/-- The node of an attribute. -/
def toJson (a : Attribute) : Json := .object [("name", .string a.name), ("type", a.type.toJson)]

end Attribute

/-! ## Classifiers -/

namespace ClassifierKind

/-- The written name of a kind. -/
def label : ClassifierKind → String
  | .concrete => "class"
  | .mixin => "mixin"

/-- The kind with a written name. -/
def ofLabel? (s : String) : Option ClassifierKind :=
  [ClassifierKind.concrete, .mixin].find? fun k => k.label == s

/-- The kind that a node denotes: its name, or an object with nothing under its name. -/
def ofJson? : Json → Option ClassifierKind
  | .string s => ofLabel? s
  | .object [(s, .null)] => ofLabel? s
  | _ => none

end ClassifierKind

namespace Classifier

/-- The attributes of a classifier: none when the field is missing. -/
def attributesOfJson? : Option Json → Option (List Attribute)
  | none => some []
  | some j => j.items? >>= List.mapM Attribute.ofJson?

/-- The classifier that a node denotes. -/
def ofJson? (j : Json) : Option Classifier :=
  match Json.record? ["id", "kind", "extends", "domain", "attributes"] j with
  | some [some id, some kind, parent, domain, attributes] => do
    return {
      id := ← id.string?
      kind := ← ClassifierKind.ofJson? kind
      parent := ← Json.optionalString? parent
      domain := ← Json.optionalString? domain
      attributes := ← attributesOfJson? attributes }
  | _ => none

/-- A member for a text that may be missing. -/
def optionalMember (name : String) (text : Option String) : List (String × Json) :=
  (text.map fun s => (name, .string s)).toList

/-- The node of a classifier. -/
def toJson (c : Classifier) : Json :=
  .object <|
    [("id", .string c.id), ("kind", .string c.kind.label)]
      ++ optionalMember "extends" c.parent ++ optionalMember "domain" c.domain
      ++ [("attributes", .array (c.attributes.map Attribute.toJson))]

end Classifier

end TypedDocs
