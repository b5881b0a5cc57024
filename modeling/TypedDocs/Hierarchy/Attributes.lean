import TypedDocs.Hierarchy.Basic

/-!
# Attributes of a classifier

A classifier has the attributes that it and its ancestors declare; of two with one name the
nearest counts.  Each is stored under the key that its owner gives it.
-/

namespace TypedDocs

/-- An attribute with the classifier that declares it and the key it is stored under. -/
structure ResolvedAttribute extends Attribute where
  owner : String
  key : Key
deriving DecidableEq, Repr

namespace ResolvedAttribute

/-- The text under which the attribute is stored. -/
def wire (r : ResolvedAttribute) : String := r.key.wire

/-- The class of the embedded objects of the attribute. -/
def elementClass (r : ResolvedAttribute) : Option String := r.type.elementClass

end ResolvedAttribute

namespace Hierarchy

/-- The attribute that a classifier itself declares under a name. -/
def declared? (c : Classifier) (name : String) : Option ResolvedAttribute :=
  (c.attribute? name).map fun a => { a with owner := c.id, key := c.keyOf name }

/-- The nearest attribute with a name on the chain of a classifier. -/
def resolve (h : Hierarchy) (id name : String) : Except Fault ResolvedAttribute := do
  let _ ← h.get id
  match (h.ancestors id).findSome? fun c => declared? c name with
  | some r => .ok r
  | none => .error (.attributeNotFound id name)

/-- The attribute that a stored key or a key of a query denotes for a classifier: one that
names a mixin is an attribute of that mixin. -/
def resolveKey (h : Hierarchy) (id key : String) : Except Fault ResolvedAttribute :=
  match Key.parse key with
  | .plain _ => h.resolve id key
  | .qualified name mixin => h.resolve mixin name

/-- The names that classifiers declare, each once, where it is first declared. -/
def namesOf (classifiers : List Classifier) : List String :=
  classifiers.foldl (fun seen c => c.attributes.foldl (fun seen a =>
    if seen.contains a.name then seen else seen ++ [a.name]) seen) []

/-- The attributes of a classifier, the nearest declarations first. -/
def attributes (h : Hierarchy) (id : String) : Except Fault (List ResolvedAttribute) := do
  let _ ← h.get id
  (namesOf (h.ancestors id)).mapM (h.resolve id)

end Hierarchy

end TypedDocs
