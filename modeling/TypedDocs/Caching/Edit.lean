import TypedDocs.Caching.Assignment
import TypedDocs.Caching.Query
import TypedDocs.Edit

/-!
# Edits with caches

A selector is followed, and an edit is made, when attributes and compiled patterns are kept.  An
edit looks up everything before it writes: what is left then is an edit without lookups.
-/

namespace TypedDocs.Caching

open Selector (Position classOfValue)

variable {ρ : Type} [Pattern.Engine ρ]

/-! ## Selectors -/

/-- The value that a step with a pattern goes to, with its path and its slot. -/
def pick (h : Hierarchy) (p : Position) (attr : ResolvedAttribute) (key : String)
    (pattern : Value) : Caching ρ Fault (Value × Path × Slot) :=
  match p.layout.get? attr.wire with
  | none => throw (.selectorMismatch key)
  | some value => do
    let path := p.path ++ [.field attr.wire]
    match ← matchValue h false attr.elementClass value pattern with
    | .miss => throw (.selectorMismatch key)
    | .hit => return (value, path, ⟨attr.wire, none⟩)
    | .hitAt i =>
      match value with
      | .array items =>
        match items[i]? with
        | some item => return (item, path ++ [.index i], ⟨attr.wire, some i⟩)
        | none => throw (.selectorMismatch key)
      | _ => throw (.selectorMismatch key)

/-- Follows a selector from `here`, an object that was reached from `before`. -/
def locateFrom (h : Hierarchy) (before here : Position) : Selector → Caching ρ Fault Location
  | [] => return here.asTarget before none
  | step :: rest => do
    let attr ← resolveKey h here.classId step.key
    match step.pattern with
    | none =>
      if rest.isEmpty then return here.asTarget before (some attr)
      else throw (.patternRequired step.key)
    | some pattern =>
      if attr.type matches .bagOf _ then throw (.wrongType step.key .arrayOrEmbeddedObject)
      let (value, path, slot) ← pick h here attr step.key pattern
      let classId := classOfValue h attr value
      if rest.isEmpty then
        return {
          target := path
          targetClass := classId
          parent := here.path
          parentClass := here.classId
          attribute? := some attr
          slot := some slot }
      match value, classId with
      | .object fields, some c => locateFrom h here ⟨path, c, fields⟩ rest
      | _, _ => throw (.wrongType step.key .embeddedObject)

/-- Follows a selector from the root of a document of a class. -/
def locate (h : Hierarchy) (rootClass : String) (root : Layout) (s : Selector) :
    Caching ρ Fault Location :=
  locateFrom h ⟨[], rootClass, root⟩ ⟨[], rootClass, root⟩ s

/-- For an edit of an object, a pattern that matched nothing is an object that was not found. -/
def locateObject (h : Hierarchy) (rootClass : String) (root : Layout) (s : Selector) :
    Caching ρ Fault Location :=
  tryCatch (locate h rootClass root s) fun
    | .selectorMismatch _ => throw .objectNotFound
    | fault => throw fault

/-! ## Edits -/

/-- Makes the edit that is left over, if the lookups before it were not refused. -/
def finish (left : Except Fault (Editing Unit)) : Editing Unit := do
  let rest ← ofExcept left
  rest

/-- The layout of a root at the end of a path. -/
def layoutAt (root : Layout) (path : Path) : Caching ρ Fault Layout :=
  match root.at? path with
  | some layout => return layout
  | none => throw .objectNotFound

/-- What is left of `set` when everything is looked up. -/
def leftOfSet (h : Hierarchy) (strict : Bool) (rootClass : String) (s : Selector) (values : Layout)
    (root : Layout) : Caching ρ Fault (Editing Unit) := do
  let l ← locateObject h rootClass root s
  match l.targetClass with
  | none => throw (.wrongType s.lastKey .embeddedObject)
  | some classId =>
    ofExcept (Edit.checkIdentity h rootClass l.target values)
    let scratch ← layoutAt root l.target
    let new ← (assign h strict classId scratch values).adapt AssignmentFailure.fault
    return Edit.writeAt l.target new

/-- What is left of `push` when everything is looked up. -/
def leftOfPush (h : Hierarchy) (strict : Bool) (rootClass : String) (s : Selector) (value : Value)
    (root : Layout) : Caching ρ Fault (Editing Unit) := do
  let l ← locate h rootClass root s
  match l.attribute? with
  | none => throw (.wrongType s.lastKey .array)
  | some attr =>
    match attr.type with
    | .arrayOf element =>
      let item ← typedValue h strict attr.name element value
      let path := if l.slot.isSome then l.parent else l.target
      return Edit.append path attr.wire item (.wrongType s.lastKey .array)
    | _ => throw (.wrongType s.lastKey .array)

/-- What is left of `pull` when everything is looked up. -/
def leftOfPull (h : Hierarchy) (rootClass : String) (s : Selector) (root : Layout) :
    Caching ρ Fault (Editing Unit) := do
  let l ← locateObject h rootClass root s
  return Edit.takeAway s l

end TypedDocs.Caching
