import TypedDocs.Pattern.Engine
import TypedDocs.Pattern.Size

/-!
# Search patterns

A pattern is compiled from its text under flags, and searched for anywhere in a text.  Search
computes the places that the pattern leads to from any place at all; the text matches when there is
one.
-/

namespace TypedDocs

/-- A compiled search pattern. -/
structure Pattern where
  expression : Pattern.CharExpression

namespace Pattern

/-! ## Compilation -/

/-- The pattern of a text under flags, or the report on what is wrong with the text. -/
def build (pattern : String) (flags : List Flag) : Except String Pattern := do
  let start : Flags :=
    { ignoreCase := flags.contains .ignoreCase
      multiLine := flags.contains .multiLine
      dotMatchesNewline := flags.contains .dotMatchesNewline
      unicode := true
      crlf := false }
  let read : Reading CharExpression := do
    let term ← parse (flags.contains .extended) pattern
    let (e, _) ← term.compile start
    return e
  let e ← read.mapError fun m => m.report pattern
  if e.size ≤ maxSize then return ⟨e⟩
  else throw ("Compiled regex exceeds size limit of " ++ toString maxSize ++ " bytes.")

/-! ## Search -/

/-- The set of the places `0, …, n`. -/
def allPlaces (n : Nat) : Nat := (1 <<< (n + 1)) - 1

/-- Whether the pattern occurs in a text. -/
def occursIn (p : Pattern) (text : String) : Bool :=
  let cs := text.toList
  let e := p.expression.map (fun s => placesOf (fun c => s.contains c.toNat) cs)
    (fun k => k.places none cs)
  e.run (cs.length + 1) (allPlaces cs.length) != 0

instance : Engine Pattern where
  build := build
  occursIn := occursIn

end Pattern

end TypedDocs
