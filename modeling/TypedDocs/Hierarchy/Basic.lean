import TypedDocs.Classifier.Basic
import TypedDocs.Fault
import TypedDocs.Keyed

/-!
# Hierarchies

A hierarchy is a set of classifiers with well-formed names in which every chain of parents
ends.  It is built from a list of classifiers, which are registered one by one before the
chains are followed; the first fault is the answer.

A chain visits no classifier twice, so it is followed for as many steps as there are
classifiers.
-/

namespace TypedDocs

/-! ## Names -/

namespace Classifier

/-- The first fault among the names of attributes, given those already seen. -/
def attributeFault? (classId : String) (seen : List String) : List Attribute → Option Fault
  | [] => none
  | a :: rest =>
    if !Key.isIdentifier a.name || Key.isInternal a.name then some (.invalidIdentifier a.name)
    else if seen.contains a.name then some (.duplicateAttribute classId a.name)
    else attributeFault? classId (a.name :: seen) rest

/-- The first fault among the names that a classifier gives. -/
def nameFault? (c : Classifier) : Option Fault :=
  if !Key.isIdentifier c.id then some (.invalidIdentifier c.id)
  else attributeFault? c.id [] c.attributes

end Classifier

/-! ## Registration -/

/-- Classifiers with well-formed names under their ids. -/
structure Registry where
  classifiers : Keyed Classifier
  sorted : classifiers.Sorted
  named : ∀ e ∈ classifiers, e.1 = e.2.id ∧ e.2.nameFault? = none

namespace Registry

/-- No classifiers. -/
def empty : Registry := ⟨[], List.Pairwise.nil, by simp⟩

/-- Adds a classifier under a new id. -/
def add (r : Registry) (c : Classifier) : Except Fault Registry :=
  match h : c.nameFault? with
  | some fault => .error fault
  | none =>
    if r.classifiers.contains c.id then .error (.alreadyExists c.id)
    else .ok
      { classifiers := r.classifiers.insert c.id c
        sorted := r.sorted.insert c.id c
        named := fun e he => by
          rcases Keyed.mem_insert he with rfl | he
          · exact ⟨rfl, h⟩
          · exact r.named e he }

/-- Registers classifiers in the order given. -/
def ofList (classifiers : List Classifier) : Except Fault Registry :=
  classifiers.foldlM add empty

/-- The fault that following the parents of `c` meets within `steps` steps, `start` being the
first of the chain: a parent that does not exist, or no end. -/
def chainFault? (r : Registry) (start : String) : Nat → Classifier → Option Fault
  | 0, _ => some (.cyclicInheritance start)
  | steps + 1, c =>
    match c.parent with
    | none => none
    | some parent =>
      match r.classifiers.get? parent with
      | none => some (.notFound parent)
      | some p => chainFault? r start steps p

end Registry

/-! ## Hierarchies -/

/-- Registered classifiers whose chains of parents all end. -/
structure Hierarchy extends Registry where
  grounded : ∀ e ∈ classifiers,
    toRegistry.chainFault? e.1 classifiers.length e.2 = none

namespace Hierarchy

/-- The hierarchy of registered classifiers; the chains are checked in order of ids. -/
def ofRegistry (r : Registry) : Except Fault Hierarchy :=
  match h : r.classifiers.findSome? fun e => r.chainFault? e.1 r.classifiers.length e.2 with
  | some fault => .error fault
  | none => .ok { r with grounded := List.findSome?_eq_none_iff.1 h }

/-- The hierarchy of a list of classifiers. -/
def ofList (classifiers : List Classifier) : Except Fault Hierarchy :=
  Registry.ofList classifiers >>= ofRegistry

/-- How many classifiers there are. -/
def size (h : Hierarchy) : Nat := h.classifiers.length

/-- The classifiers in order of ids. -/
def toList (h : Hierarchy) : List Classifier := h.classifiers.map Prod.snd

/-- How many of the classifiers are mixins. -/
def mixinCount (h : Hierarchy) : Nat := h.toList.countP Classifier.isMixin

/-- The classifier with an id, if there is one. -/
def find? (h : Hierarchy) (id : String) : Option Classifier := h.classifiers.get? id

/-- The classifier with an id. -/
def get (h : Hierarchy) (id : String) : Except Fault Classifier :=
  match h.find? id with
  | some c => .ok c
  | none => .error (.notFound id)

/-- Whether the id is that of a mixin. -/
def isMixin (h : Hierarchy) (id : String) : Bool := (h.find? id).any Classifier.isMixin

/-- A classifier and the chain of its parents, at most `steps` of them. -/
def chainFrom (h : Hierarchy) : Nat → Classifier → List Classifier
  | 0, _ => []
  | steps + 1, c => c :: ((c.parent.bind h.find?).map (chainFrom h steps)).getD []

/-- The classifier with an id and the chain of its parents; nothing when there is none. -/
def ancestors (h : Hierarchy) (id : String) : List Classifier :=
  ((h.find? id).map (h.chainFrom h.size)).getD []

/-- Whether a classifier is `ancestor` or extends it. -/
def isSubtype (h : Hierarchy) (id ancestor : String) : Bool :=
  (h.ancestors id).any fun c => c.id == ancestor

/-- The nearest class on the chain of a classifier. -/
def concreteClass (h : Hierarchy) (id : String) : Except Fault String := do
  let _ ← h.get id
  match (h.ancestors id).find? fun c => c.kind == .concrete with
  | some c => .ok c.id
  | none => .error (.noConcreteClass id)

/-- The nearest domain declared on the chain of a classifier. -/
def domain (h : Hierarchy) (id : String) : Except Fault String := do
  let _ ← h.get id
  match (h.ancestors id).findSome? Classifier.domain with
  | some d => .ok d
  | none => .error (.noDomain id)

end Hierarchy

end TypedDocs
