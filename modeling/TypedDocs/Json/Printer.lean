import TypedDocs.Json.Basic
import TypedDocs.Number.Literal

/-!
# Writing JSON trees

Two layouts of the same text: on one line, and with each item and member on a line of its own,
two blanks deeper than its container.  An unreadable node has no text of its own and is
written as `null`.
-/

namespace TypedDocs.Json

/-! ## Texts -/

/-- The lower-case hexadecimal digits of a number below 256. -/
def hex2 (n : Nat) : List Char := [Nat.digitChar (n / 16), Nat.digitChar (n % 16)]

/-- A character of a text as it is written between quotes. -/
def escapeChar (c : Char) : List Char :=
  if c = '"' then ['\\', '"']
  else if c = '\\' then ['\\', '\\']
  else if c = '\x08' then ['\\', 'b']
  else if c = '\t' then ['\\', 't']
  else if c = '\n' then ['\\', 'n']
  else if c = '\x0c' then ['\\', 'f']
  else if c = '\r' then ['\\', 'r']
  else if c.toNat < 0x20 then '\\' :: 'u' :: '0' :: '0' :: hex2 c.toNat
  else [c]

/-- A text between quotes. -/
def quote (s : String) : String := "\"" ++ String.ofList (s.toList.flatMap escapeChar) ++ "\""

/-! ## One line -/

/-- The texts of the items of a container between its brackets. -/
def enclose (left right : String) (parts : List String) : String :=
  left ++ String.intercalate "," parts ++ right

mutual

/-- The text of a tree on one line, without blanks. -/
def compact : Json → String
  | .null | .unreadable => "null"
  | .bool b => if b then "true" else "false"
  | .number n => n.text
  | .string s => quote s
  | .array items => enclose "[" "]" (compactItems items)
  | .object members => enclose "\x7b" "\x7d" (compactMembers members)

/-- The texts of the items of an array. -/
def compactItems : List Json → List String
  | [] => []
  | j :: js => compact j :: compactItems js

/-- The texts of the members of an object. -/
def compactMembers : List (String × Json) → List String
  | [] => []
  | (key, j) :: js => (quote key ++ ":" ++ compact j) :: compactMembers js

end

/-! ## Indented -/

/-- The text of a container whose parts stand on lines of their own, `depth` levels deep. -/
def encloseLines (left right : String) (depth : Nat) (parts : List String) : String :=
  if parts.isEmpty then left ++ right else
    let line := "\n" ++ String.ofList (List.replicate (2 * depth) ' ')
    left ++ line ++ "  " ++ String.intercalate ("," ++ line ++ "  ") parts ++ line ++ right

mutual

/-- The indented text of a tree that stands `depth` levels deep. -/
def prettyAt (depth : Nat) : Json → String
  | .null | .unreadable => "null"
  | .bool b => if b then "true" else "false"
  | .number n => n.text
  | .string s => quote s
  | .array items => encloseLines "[" "]" depth (prettyItems (depth + 1) items)
  | .object members => encloseLines "\x7b" "\x7d" depth (prettyMembers (depth + 1) members)

/-- The indented texts of the items of an array. -/
def prettyItems (depth : Nat) : List Json → List String
  | [] => []
  | j :: js => prettyAt depth j :: prettyItems depth js

/-- The indented texts of the members of an object. -/
def prettyMembers (depth : Nat) : List (String × Json) → List String
  | [] => []
  | (key, j) :: js => (quote key ++ ": " ++ prettyAt depth j) :: prettyMembers depth js

end

/-- The indented text of a tree. -/
def pretty (j : Json) : String := prettyAt 0 j

end TypedDocs.Json
