import TypedDocs.Assignment
import TypedDocs.Selector.Location

/-!
# Edits of a document

Three edits at the place a selector leads to: `set` writes values into an object, `push` adds
an item to an array, `pull` takes a matched item or object away.  An edit works on the root in
place: what it has written before it fails stays written.
-/

namespace TypedDocs

/-- Work on a root layout in place, which may fail. -/
abbrev Editing := EStateM Fault Layout

namespace Edit

variable {ρ : Type} [Pattern.Engine ρ]

/-! ## Places of the root -/

/-- What can be read off the root. -/
def reading {α : Type} (f : Layout → Except Fault α) : Editing α := do
  ofExcept (f (← get))

/-- For an edit of an object, a pattern that matched nothing is an object that was not found. -/
def locateObject (h : Hierarchy) (rootClass : String) (root : Layout) (s : Selector) :
    Except Fault Location :=
  match s.locate h rootClass root with
  | .error (.selectorMismatch _) => .error .objectNotFound
  | result => result

/-- The layout at the end of a path. -/
def layoutAt (path : Path) : Editing Layout :=
  reading fun root =>
    match root.at? path with
    | some layout => .ok layout
    | none => .error .objectNotFound

/-- Puts another layout at the end of a path. -/
def writeAt (path : Path) (new : Layout) : Editing Unit := do
  let root ← reading fun root =>
    match root.replace? path new with
    | some root => .ok root
    | none => .error .objectNotFound
  MonadState.set root

/-- The value under a key of the layout at the end of a path; where there is none, an empty
array is put. -/
def slotValue (path : Path) (key : String) : Editing Value := do
  let owner ← layoutAt path
  match owner.get? key with
  | some value => return value
  | none =>
    writeAt path (owner.insert key (.array []))
    return .array []

/-! ## Set -/

/-- Refuses values that `set` does not write: the id and the class, and the mixins of what is
not the root or cannot have them. -/
def checkIdentity (h : Hierarchy) (rootClass : String) (target : Path) (values : Layout) :
    Except Fault Unit := do
  if values.contains Document.idKey then
    throw (.invalidDocument (.fixedKey Document.idKey))
  if values.contains Document.classKey then
    throw (.invalidDocument (.fixedKey Document.classKey))
  match values.get? Document.mixinsKey with
  | none => return
  | some mixins =>
    if target.isEmpty then h.checkMixins rootClass mixins
    else throw (.invalidDocument .mixinsBelowRoot)

/-- Writes values into the object that a selector leads to. -/
def set (h : Hierarchy) (strict : Bool) (rootClass : String) (s : Selector) (values : Layout) :
    Editing Unit := do
  let l ← reading fun root => locateObject h rootClass root s
  match l.targetClass with
  | none => throw (.wrongType s.lastKey .embeddedObject)
  | some classId =>
    ofExcept (checkIdentity h rootClass l.target values)
    let scratch ← layoutAt l.target
    match Assignment.assign h strict classId scratch values with
    | .error failure => throw failure.fault
    | .ok new => writeAt l.target new

/-! ## Push -/

/-- Adds an item to the array under a key of the layout at the end of a path; what stands there
and is no array is refused. -/
def append (path : Path) (key : String) (item : Value) (refusal : Fault) : Editing Unit := do
  match ← slotValue path key with
  | .array items =>
    let owner ← layoutAt path
    writeAt path (owner.insert key (.array (items ++ [item])))
  | _ => throw refusal

/-- Adds an item to the array attribute that the last step of a selector names, in the object
that holds it; a missing array is a new one. -/
def push (h : Hierarchy) (strict : Bool) (rootClass : String) (s : Selector) (value : Value) :
    Editing Unit := do
  let l ← reading fun root => s.locate h rootClass root
  match l.attribute? with
  | none => throw (.wrongType s.lastKey .array)
  | some attr =>
    match attr.type with
    | .arrayOf element =>
      let item ← ofExcept (Assignment.typedValue h strict attr.name element value)
      let path := if l.slot.isSome then l.parent else l.target
      append path attr.wire item (.wrongType s.lastKey .array)
    | _ => throw (.wrongType s.lastKey .array)

/-! ## Pull -/

/-- Takes away what the last step of a selector matched, which led to the location. -/
def takeAway (s : Selector) (l : Location) : Editing Unit := do
  match l.attribute?, l.slot with
  | some attr, some slot =>
    let parent ← layoutAt l.parent
    match attr.type with
    | .arrayOf _ =>
      match slot.index, parent.get? slot.key with
      | some i, some (.array items) =>
        if i < items.length then
          writeAt l.parent (parent.insert slot.key (.array (items.eraseIdx i)))
        else throw .objectNotFound
      | _, _ => throw .objectNotFound
    | .instanceOf _ =>
      if parent.contains slot.key then writeAt l.parent (parent.erase slot.key)
      else throw .objectNotFound
    | _ => throw (.wrongType s.lastKey .arrayOrEmbeddedObject)
  | _, _ => throw .objectNotFound

/-- Takes away what the last step of a selector matched: an item of an array, or an embedded
object. -/
def pull (h : Hierarchy) (rootClass : String) (s : Selector) : Editing Unit := do
  let l ← reading fun root => locateObject h rootClass root s
  takeAway s l

end Edit

end TypedDocs
