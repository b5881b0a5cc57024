import TypedDocs.Hierarchy.Typing

/-!
# Assignment

Loose values are written into a layout under the types that a class declares.  A key that
begins with an underscore is copied; a key that names a mixin is read for that mixin; any other
is an attribute of the class.  Embedded objects are built anew, each with the class it is typed
by under `_class`.

A value that does not have the form of its type is copied as it is, except that strict
assignment refuses what is no array under an array type.
-/

namespace TypedDocs

/-- How an assignment failed, and what it had written until then. -/
structure AssignmentFailure where
  fault : Fault
  written : Layout

namespace Assignment

/-- Gives a layout the concrete class of `classId` if it names none. -/
def withTag (h : Hierarchy) (classId : String) (target : Layout) : Except Fault Layout :=
  match Document.tag? target with
  | some _ => .ok target
  | none => (h.concreteClass classId).map fun c => target.insert Document.classKey (.string c)

/-- The class that types an embedded object declared as `classId`, and its empty layout. -/
def startEmbedded (h : Hierarchy) (classId : String) (fields : Layout) :
    Except Fault (String × Layout) :=
  let c := (h.embeddedClass (some classId) fields).getD classId
  (withTag h c []).map fun start => (c, start)

/-- The classifier that a key is read for, the name of its attribute, and the target, which a key
that names a mixin gives a class if it has none. -/
def readKey (h : Hierarchy) (classId : String) (target : Layout) (key : String) :
    String × String × Except Fault Layout :=
  match Key.parse key with
  | .plain _ => (classId, key, .ok target)
  | .qualified name mixin => (mixin, name, withTag h mixin target)

mutual

/-- A value under its declared type. -/
def typedValue (h : Hierarchy) (strict : Bool) (name : String) (type : AttributeType) :
    Value → Except Fault Value
  | .array items =>
    match type with
    | .arrayOf (.instanceOf c) => (embedItems h strict c items).map .array
    | _ => .ok (.array items)
  | .object fields =>
    match type with
    | .arrayOf _ => if strict then .error (.wrongType name .array) else .ok (.object fields)
    | .instanceOf c =>
      match startEmbedded h c fields with
      | .error fault => .error fault
      | .ok (c, start) =>
        match assignEntries h strict c start fields with
        | .error failure => .error failure.fault
        | .ok layout => .ok (.object layout)
    | .bagOf (.instanceOf c) => (embedEntries h strict c fields).map .object
    | _ => .ok (.object fields)
  | .null => .ok .null
  | value =>
    match type with
    | .arrayOf _ => if strict then .error (.wrongType name .array) else .ok value
    | _ => .ok value

/-- The embedded object of a value declared as `classId`; what is no object is copied. -/
def embed (h : Hierarchy) (strict : Bool) (classId : String) : Value → Except Fault Value
  | .object fields =>
    match startEmbedded h classId fields with
    | .error fault => .error fault
    | .ok (c, start) =>
      match assignEntries h strict c start fields with
      | .error failure => .error failure.fault
      | .ok layout => .ok (.object layout)
  | value => .ok value

/-- The embedded objects of the items of an array. -/
def embedItems (h : Hierarchy) (strict : Bool) (classId : String) :
    List Value → Except Fault (List Value)
  | [] => .ok []
  | item :: items => do
    let v ← embed h strict classId item
    let vs ← embedItems h strict classId items
    return v :: vs

/-- The embedded objects of the entries of a bag. -/
def embedEntries (h : Hierarchy) (strict : Bool) (classId : String) :
    List (String × Value) → Except Fault (List (String × Value))
  | [] => .ok []
  | (key, entry) :: entries => do
    let v ← embed h strict classId entry
    let vs ← embedEntries h strict classId entries
    return (key, v) :: vs

/-- Writes entries into a layout in their order, their keys read for a class. -/
def assignEntries (h : Hierarchy) (strict : Bool) (classId : String) (target : Layout) :
    List (String × Value) → Except AssignmentFailure Layout
  | [] => .ok target
  | (key, value) :: rest =>
    if Key.isInternal key then assignEntries h strict classId (target.insert key value) rest
    else
      let (owner, name, tagged) := readKey h classId target key
      match tagged with
      | .error fault => .error ⟨fault, target⟩
      | .ok target =>
        match h.resolve owner name with
        | .error fault => .error ⟨fault, target⟩
        | .ok attr =>
          match typedValue h strict attr.name attr.type value with
          | .error fault => .error ⟨fault, target⟩
          | .ok typed => assignEntries h strict classId (target.insert attr.wire typed) rest

end

/-- Writes values into a layout typed by a class, which gives the layout its class if it has
none. -/
def assign (h : Hierarchy) (strict : Bool) (classId : String) (target values : Layout) :
    Except AssignmentFailure Layout :=
  match withTag h classId target with
  | .error fault => .error ⟨fault, target⟩
  | .ok target => assignEntries h strict classId target values

end Assignment

end TypedDocs
