import TypedDocs.Pattern.Term
import TypedDocs.Unicode.Age
import TypedDocs.Unicode.Script
import TypedDocs.Unicode.Word

/-!
# Unicode properties in patterns

A pattern asks for a set of characters by the name of a binary property, of a general category
or of a script, in this order, or by the name of a property and one of its values.  Names are
compared without regard to capitals, blanks, dashes, underscores and an `is` at their start.
-/

namespace TypedDocs.Pattern

/-! ## Names -/

/-- The letters and digits of a name, made small; other ASCII characters stay. -/
def looseChars (cs : List Char) : List Char :=
  (cs.filter fun c => c.toNat < 128 && c != ' ' && c != '_' && c != '-').map Char.toLower

/-- A name as it is compared.  `isc` is not the name `c` with an `is` before it. -/
def looseName (name : String) : String :=
  match name.toList with
  | a :: b :: rest =>
    if a.toLower = 'i' && b.toLower = 's' then
      let loose := looseChars rest
      if loose = ['c'] then "isc" else String.ofList loose
    else String.ofList (looseChars (a :: b :: rest))
  | cs => String.ofList (looseChars cs)

/-! ## Sets -/

/-- The characters of a general category or a group of them, by its loose name. -/
def categoryChars? (name : String) : Option CharSet :=
  match name with
  | "any" => some CharSet.empty.complement
  | "assigned" => some (Unicode.Category.chars .unassigned).complement
  | "ascii" => some (.range 0 127)
  | _ => (Unicode.Category.named? name).map Unicode.Category.charsOf

/-- The characters of the property with a loose name. -/
def namedChars? (name : String) : Option CharSet :=
  (Unicode.BinaryProperty.named? name).map Unicode.BinaryProperty.chars
    <|> categoryChars? name
    <|> (Unicode.Script.named? name).map Unicode.Script.chars

/-- The characters for which the property with a loose name has the value with a loose name; nothing
for a value that the property does not have, or for another property. -/
def valuedChars? (name value : String) : Option (Option CharSet) :=
  match name with
  | "gc" | "generalcategory" => some (categoryChars? value)
  | "sc" | "script" => some ((Unicode.Script.named? value).map Unicode.Script.chars)
  | "scx" | "scriptextensions" =>
    some ((Unicode.Script.named? value).map Unicode.Script.extension)
  | "age" => some (Unicode.Age.named? value)
  | _ => none

/-- The characters with a property. -/
def PropertyQuery.chars : PropertyQuery → Except Malformation CharSet
  | .named name =>
    match namedChars? (looseName name) with
    | some s => .ok s
    | none => .error Malformation.propertyNotFound
  | .valued name value =>
    match valuedChars? (looseName name) (looseName value) with
    | some (some s) => .ok s
    | some none => .error Malformation.propertyValueNotFound
    | none => .error Malformation.propertyNotFound

end TypedDocs.Pattern
