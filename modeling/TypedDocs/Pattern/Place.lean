import TypedDocs.Pattern.Expression
import TypedDocs.Unicode.Word

/-!
# Places of a text

A text of `n` characters has the places `0, …, n`, before, between and after its characters.
What holds at a place depends on the characters beside it.
-/

namespace TypedDocs.Pattern

/-- Conditions on a place, with what a line end and a word are for them. -/
inductive Check where
  | textStart
  | textEnd
  | lineStart (crlf : Bool)
  | lineEnd (crlf : Bool)
  | wordBoundary (ascii : Bool)
  | notWordBoundary (ascii : Bool)
  | wordStart (ascii : Bool)
  | wordEnd (ascii : Bool)
  | wordStartHalf (ascii : Bool)
  | wordEndHalf (ascii : Bool)
deriving DecidableEq, Repr

/-- Whether a character belongs to words: of ASCII, or of all characters. -/
def isWordChar (ascii : Bool) (c : Char) : Bool :=
  if ascii then c.isAlphanum || c == '_' else Unicode.wordCharacters.contains c.toNat

namespace Check

/-- Whether a condition holds between two characters, either of which may be missing. -/
def holds (k : Check) (before after : Option Char) : Bool :=
  let word (ascii : Bool) (c : Option Char) : Bool := c.any (isWordChar ascii)
  match k with
  | .textStart => before.isNone
  | .textEnd => after.isNone
  | .lineStart false => before.isNone || before == some '\n'
  | .lineStart true =>
    before.isNone || before == some '\n' || (before == some '\r' && after != some '\n')
  | .lineEnd false => after.isNone || after == some '\n'
  | .lineEnd true =>
    after.isNone || after == some '\r' || (after == some '\n' && before != some '\r')
  | .wordBoundary a => word a before != word a after
  | .notWordBoundary a => word a before == word a after
  | .wordStart a => !word a before && word a after
  | .wordEnd a => word a before && !word a after
  | .wordStartHalf a => !word a before
  | .wordEndHalf a => !word a after

/-- The places of the characters `cs`, which follow `before`, where a condition holds. -/
def places (k : Check) (before : Option Char) : List Char → Nat
  | [] => if k.holds before none then 1 else 0
  | c :: cs => 2 * places k (some c) cs + if k.holds before (some c) then 1 else 0

end Check

/-- The places whose character has a property. -/
def placesOf (p : Char → Bool) : List Char → Nat
  | [] => 0
  | c :: cs => 2 * placesOf p cs + if p c then 1 else 0

end TypedDocs.Pattern
