import TypedDocs.Json.Basic

/-!
# Records in JSON

A record with named fields is read from an object, in which each of its fields stands at most
once and any other member is passed over, or from an array of its fields in order, in which
the last ones may be missing.
-/

namespace TypedDocs.Json

/-- The field with a name among members; refused when it is repeated. -/
def field? {α : Type} (name : String) (members : List (String × α)) : Option (Option α) :=
  match members.filter fun m => m.1 == name with
  | [] => some none
  | [m] => some (some m.2)
  | _ => none

/-- The fields of a record that stand as the items of an array. -/
def positional? {α : Type} : (count : Nat) → List α → Option (List (Option α))
  | count, [] => some (List.replicate count none)
  | 0, _ :: _ => none
  | count + 1, item :: items => (positional? count items).map (some item :: ·)

/-- The fields of a record, each present or not. -/
def record? (names : List String) : Json → Option (List (Option Json))
  | .object members => names.mapM fun name => field? name members
  | .array items => positional? names.length items
  | _ => none

/-- The text of a node. -/
def string? : Json → Option String
  | .string s => some s
  | _ => none

/-- A text that may be missing or null. -/
def optionalString? : Option Json → Option (Option String)
  | none | some .null => some none
  | some (.string s) => some (some s)
  | _ => none

/-- The items of an array. -/
def items? : Json → Option (List Json)
  | .array items => some items
  | _ => none

mutual

/-- Whether no part of a tree is unreadable. -/
def isReadable : Json → Bool
  | .array items => areReadable items
  | .object members => membersReadable members
  | .unreadable => false
  | _ => true

/-- Whether every item is readable. -/
def areReadable : List Json → Bool
  | [] => true
  | j :: js => isReadable j && areReadable js

/-- Whether every member is readable. -/
def membersReadable : List (String × Json) → Bool
  | [] => true
  | (_, j) :: js => isReadable j && membersReadable js

end

end TypedDocs.Json
