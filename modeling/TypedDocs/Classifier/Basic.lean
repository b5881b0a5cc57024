import TypedDocs.Key

/-!
# Classifiers

A classifier types documents and embedded objects: a class, or a mixin that adds attributes to
the documents of a class.  It declares attributes and may extend another classifier.
-/

namespace TypedDocs

/-- Whether a classifier is a class or a mixin. -/
inductive ClassifierKind where
  | concrete
  | mixin
deriving DecidableEq, Repr

/-- The declared type of an attribute. -/
inductive AttributeType where
  | string
  | number
  | boolean
  | date
  | refTo (target : String)
  | instanceOf (classId : String)
  | arrayOf (element : AttributeType)
  | bagOf (element : AttributeType)
deriving DecidableEq, Repr

namespace AttributeType

/-- The class of the embedded objects under a type, through arrays and bags. -/
def elementClass : AttributeType → Option String
  | .instanceOf classId => some classId
  | .arrayOf element => element.elementClass
  | .bagOf element => element.elementClass
  | _ => none

/-- Whether the type is that of an array. -/
def isArray : AttributeType → Bool
  | .arrayOf _ => true
  | _ => false

/-- Whether the values of the type are scalars. -/
def isScalar : AttributeType → Bool
  | .string | .number | .boolean | .date | .refTo _ => true
  | _ => false

/-- Whether the type may be that of items of arrays and entries of bags, none of them an array or
a bag itself. -/
def isElement : AttributeType → Bool
  | .arrayOf _ | .bagOf _ => false
  | _ => true

end AttributeType

/-- A named attribute with its type. -/
structure Attribute where
  name : String
  type : AttributeType
deriving DecidableEq, Repr

/-- A class or a mixin: what it extends, where its documents are kept, what it declares. -/
structure Classifier where
  id : String
  kind : ClassifierKind
  parent : Option String
  domain : Option String
  attributes : List Attribute
deriving DecidableEq, Repr

namespace Classifier

/-- Whether the classifier is a mixin. -/
def isMixin (c : Classifier) : Bool := c.kind == .mixin

/-- The attribute that the classifier itself declares under a name. -/
def attribute? (c : Classifier) (name : String) : Option Attribute :=
  c.attributes.find? fun a => a.name == name

/-- The key of an attribute that the classifier declares. -/
def keyOf (c : Classifier) (name : String) : Key :=
  match c.kind with
  | .concrete => .plain name
  | .mixin => .qualified name c.id

end Classifier

end TypedDocs
