import TypedDocs.Pattern.Compile

/-!
# The size of a pattern

A pattern is refused when the automaton that would run it is too large.  The size is an
estimate in bytes: a state for each byte of a character, more for a class that is not ASCII,
and so often as a repetition asks for it.
-/

namespace TypedDocs.Pattern

/-- The estimated bytes of one state. -/
def stateSize : Nat := 32

/-- The greatest size of a pattern, in bytes. -/
def maxSize : Nat := 10485760

/-- The estimated size of a step. -/
def stepSize (s : CharSet) : Nat :=
  match s.changes with
  | [low, high] =>
    if high = low + 1 then stateSize * (Char.ofNat low).utf8Size else 4 * stateSize
  | changes =>
    2 * stateSize + if s.isAscii then 4 * changes.length else stateSize * changes.length

namespace Expression

/-- Whether an expression takes no character. -/
def isEmptyWidth : CharExpression → Bool
  | .empty | .check _ => true
  | .step _ => false
  | .sequence a b => a.isEmptyWidth && b.isEmptyWidth
  | .choice a b => a.isEmptyWidth && b.isEmptyWidth
  | .repetition e _ most => e.isEmptyWidth || most == some 0

/-- The estimated size of an expression. -/
def size : CharExpression → Nat
  | .empty => 0
  | .step s => stepSize s
  | .check _ => stateSize
  | .sequence a b => a.size + b.size
  | .choice a b => a.size + b.size + 2 * stateSize
  | .repetition e least most =>
    if e.isEmptyWidth then e.size + 2 * stateSize
    else match most with
      | none => (max least 1) * e.size + 2 * stateSize
      | some most => least * e.size + (most - least) * (e.size + stateSize) + stateSize

end Expression

end TypedDocs.Pattern
