import TypedDocs.Assignment
import TypedDocs.Caching.Basic

/-!
# Assignment with caches

Values are written into a layout when the attributes that their keys denote are kept.  A function
here gives what the one of its name in `Assignment` gives (`Caching.agrees_assign`).
-/

namespace TypedDocs.Caching

open Assignment (readKey startEmbedded withTag)

variable {ρ : Type}

mutual

/-- A value under its declared type. -/
def typedValue (h : Hierarchy) (strict : Bool) (name : String) (type : AttributeType) :
    Value → Caching ρ Fault Value
  | .array items =>
    match type with
    | .arrayOf (.instanceOf c) => .array <$> embedItems h strict c items
    | _ => return .array items
  | .object fields =>
    match type with
    | .arrayOf _ => if strict then throw (.wrongType name .array) else return .object fields
    | .instanceOf c => do
      let (c, start) ← ofExcept (startEmbedded h c fields)
      .object <$> (assignEntries h strict c start fields).adapt AssignmentFailure.fault
    | .bagOf (.instanceOf c) => .object <$> embedEntries h strict c fields
    | _ => return .object fields
  | .null => return .null
  | value =>
    match type with
    | .arrayOf _ => if strict then throw (.wrongType name .array) else return value
    | _ => return value

/-- The embedded object of a value declared as `classId`; what is no object is copied. -/
def embed (h : Hierarchy) (strict : Bool) (classId : String) : Value → Caching ρ Fault Value
  | .object fields => do
    let (c, start) ← ofExcept (startEmbedded h classId fields)
    .object <$> (assignEntries h strict c start fields).adapt AssignmentFailure.fault
  | value => return value

/-- The embedded objects of the items of an array. -/
def embedItems (h : Hierarchy) (strict : Bool) (classId : String) :
    List Value → Caching ρ Fault (List Value)
  | [] => return []
  | item :: items => do
    let v ← embed h strict classId item
    let vs ← embedItems h strict classId items
    return v :: vs

/-- The embedded objects of the entries of a bag. -/
def embedEntries (h : Hierarchy) (strict : Bool) (classId : String) :
    List (String × Value) → Caching ρ Fault (List (String × Value))
  | [] => return []
  | (key, entry) :: entries => do
    let v ← embed h strict classId entry
    let vs ← embedEntries h strict classId entries
    return (key, v) :: vs

/-- Writes entries into a layout in their order, their keys read for a class. -/
def assignEntries (h : Hierarchy) (strict : Bool) (classId : String) (target : Layout) :
    List (String × Value) → Caching ρ AssignmentFailure Layout
  | [] => return target
  | (key, value) :: rest =>
    if Key.isInternal key then assignEntries h strict classId (target.insert key value) rest
    else do
      let (owner, name, tagged) := readKey h classId target key
      let target ← ofExcept (tagged.mapError (AssignmentFailure.mk · target))
      let attr ← (resolve h owner name).adapt (AssignmentFailure.mk · target)
      let typed ← (typedValue h strict attr.name attr.type value).adapt
        (AssignmentFailure.mk · target)
      assignEntries h strict classId (target.insert attr.wire typed) rest

end

/-- Writes values into a layout typed by a class, which gives the layout its class if it has
none. -/
def assign (h : Hierarchy) (strict : Bool) (classId : String) (target values : Layout) :
    Caching ρ AssignmentFailure Layout := do
  let target ← ofExcept ((withTag h classId target).mapError (AssignmentFailure.mk · target))
  assignEntries h strict classId target values

end TypedDocs.Caching
