import TypedDocs.Json.Record

/-!
# Selectors

A selector names a place inside a document: the attributes to follow, each with the pattern
that picks the value or the item to go on from.  In JSON a step is an object with its key and,
if it has one, its pattern; a pattern that is null is none.
-/

namespace TypedDocs

/-- One step of a selector. -/
structure SelectorStep where
  key : String
  pattern : Option Value
deriving Inhabited

/-- A place inside a document. -/
abbrev Selector := List SelectorStep

namespace SelectorStep

/-- The pattern that a member holds; null is none. -/
def patternOfJson? : Option Json → Option (Option Value)
  | none | some .null => some none
  | some j => (Value.ofJson? j).map some

/-- The step that a node denotes. -/
def ofJson? (j : Json) : Option SelectorStep :=
  match Json.record? ["key", "pattern"] j with
  | some [some key, pattern] => do return ⟨← key.string?, ← patternOfJson? pattern⟩
  | _ => none

/-- The node of a step. -/
def toJson (s : SelectorStep) : Json :=
  .object (("key", .string s.key) :: (s.pattern.map fun p => ("pattern", p.toJson)).toList)

end SelectorStep

namespace Selector

/-- The selector that a node denotes. -/
def ofJson? (j : Json) : Option Selector := j.items? >>= List.mapM SelectorStep.ofJson?

/-- The node of a selector. -/
def toJson (s : Selector) : Json := .array (s.map SelectorStep.toJson)

/-- The key of the last step; empty when there is none. -/
def lastKey (s : Selector) : String := (s.getLast?.map SelectorStep.key).getD ""

end Selector

end TypedDocs
