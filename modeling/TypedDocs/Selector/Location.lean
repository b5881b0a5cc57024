import TypedDocs.Path
import TypedDocs.Query
import TypedDocs.Selector.Basic

/-!
# Where a selector leads

A selector is followed from the root of a document.  A step with a pattern goes to the value
of its attribute, or to the first item of it that matches; a step without one stays, and only
the last may do so.  The location says what was reached and in which object.
-/

namespace TypedDocs

/-- Where a matched value stands in its object: under a key, or in an array under it. -/
structure Slot where
  key : String
  index : Option Nat
deriving DecidableEq, Repr

/-- What a selector leads to.  The class of the target is missing when that is no embedded
object, the attribute when the selector is empty, the slot when its last step has no pattern. -/
structure Location where
  target : Path
  targetClass : Option String
  parent : Path
  parentClass : String
  attribute? : Option ResolvedAttribute
  slot : Option Slot

namespace Selector

variable {ρ : Type} [Pattern.Engine ρ]

/-- An object on the way of a selector. -/
structure Position where
  path : Path
  classId : String
  layout : Layout

/-- The value that a step with a pattern goes to, with its path and its slot. -/
def pick (h : Hierarchy) (p : Position) (attr : ResolvedAttribute) (key : String)
    (pattern : Value) : Except Fault (Value × Path × Slot) :=
  match p.layout.get? attr.wire with
  | none => .error (.selectorMismatch key)
  | some value => do
    let path := p.path ++ [.field attr.wire]
    match ← Query.matchValue h false attr.elementClass value pattern with
    | .miss => .error (.selectorMismatch key)
    | .hit => .ok (value, path, ⟨attr.wire, none⟩)
    | .hitAt i =>
      match value with
      | .array items =>
        match items[i]? with
        | some item => .ok (item, path ++ [.index i], ⟨attr.wire, some i⟩)
        | none => .error (.selectorMismatch key)
      | _ => .error (.selectorMismatch key)

/-- The class of a value reached through an attribute, if the value is an object. -/
def classOfValue (h : Hierarchy) (attr : ResolvedAttribute) : Value → Option String
  | .object fields => h.embeddedClass attr.elementClass fields
  | _ => none

/-- The object `here`, which was reached from `before`, as a location. -/
def Position.asTarget (here before : Position) (attr : Option ResolvedAttribute) : Location where
  target := here.path
  targetClass := some here.classId
  parent := before.path
  parentClass := before.classId
  attribute? := attr
  slot := none

/-- Follows a selector from `here`, an object that was reached from `before`. -/
def locateFrom (h : Hierarchy) (before here : Position) : Selector → Except Fault Location
  | [] => .ok (here.asTarget before none)
  | step :: rest => do
    let attr ← h.resolveKey here.classId step.key
    match step.pattern with
    | none =>
      if rest.isEmpty then return here.asTarget before (some attr)
      else throw (.patternRequired step.key)
    | some pattern =>
      if attr.type matches .bagOf _ then throw (.wrongType step.key .arrayOrEmbeddedObject)
      let (value, path, slot) ← pick h here attr step.key pattern
      let classId := classOfValue h attr value
      if rest.isEmpty then
        return {
          target := path
          targetClass := classId
          parent := here.path
          parentClass := here.classId
          attribute? := some attr
          slot := some slot }
      match value, classId with
      | .object fields, some c => locateFrom h here ⟨path, c, fields⟩ rest
      | _, _ => throw (.wrongType step.key .embeddedObject)

/-- Follows a selector from the root of a document of a class. -/
def locate (h : Hierarchy) (rootClass : String) (root : Layout) (s : Selector) :
    Except Fault Location :=
  locateFrom h ⟨[], rootClass, root⟩ ⟨[], rootClass, root⟩ s

end Selector

end TypedDocs
