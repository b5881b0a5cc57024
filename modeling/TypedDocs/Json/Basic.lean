import TypedDocs.Value

/-!
# JSON trees

What a JSON text says, its members in the order of the text and repeated ones kept.  A part
that is well formed but denotes nothing — a number beyond binary64, a text with half a
surrogate pair, a container nested too deeply — is an unreadable node: it is an error for who
reads it and harmless to who passes over it.
-/

namespace TypedDocs

/-- What a JSON text says. -/
inductive Json where
  | null
  | bool (b : Bool)
  | number (n : Number)
  | string (s : String)
  | array (items : List Json)
  | object (members : List (String × Json))
  | unreadable
deriving Inhabited

/-! ## Algorithm -/

mutual

/-- The value a tree denotes; of repeated members the last counts. -/
def Value.ofJson? : Json → Option Value
  | .null => some .null
  | .bool b => some (.bool b)
  | .number n => some (.number n)
  | .string s => some (.string s)
  | .array items => (Value.ofItems? items).map .array
  | .object members => (Value.ofMembers? members).map fun fields => .object (Keyed.ofEntries fields)
  | .unreadable => none

/-- The values of the items of an array. -/
def Value.ofItems? : List Json → Option (List Value)
  | [] => some []
  | j :: js => do
    let v ← Value.ofJson? j
    let vs ← Value.ofItems? js
    return v :: vs

/-- The values of the members of an object. -/
def Value.ofMembers? : List (String × Json) → Option (List (String × Value))
  | [] => some []
  | (key, j) :: js => do
    let v ← Value.ofJson? j
    let vs ← Value.ofMembers? js
    return (key, v) :: vs

end

mutual

/-- The tree of a value. -/
def Value.toJson : Value → Json
  | .null => .null
  | .bool b => .bool b
  | .number n => .number n
  | .string s => .string s
  | .array items => .array (Value.itemsToJson items)
  | .object fields => .object (Value.fieldsToJson fields)

/-- The trees of a list of values. -/
def Value.itemsToJson : List Value → List Json
  | [] => []
  | v :: vs => Value.toJson v :: Value.itemsToJson vs

/-- The members of a list of fields. -/
def Value.fieldsToJson : List (String × Value) → List (String × Json)
  | [] => []
  | (key, v) :: fs => (key, Value.toJson v) :: Value.fieldsToJson fs

end

/-- The layout a tree denotes, if it is an object. -/
def Layout.ofJson? : Json → Option Layout
  | .object members => (Value.ofMembers? members).map Keyed.ofEntries
  | _ => none

/-- The tree of a layout. -/
def Layout.toJson (layout : Layout) : Json := .object (Value.fieldsToJson layout)

end TypedDocs
