import TypedDocs.Memo
import TypedDocs.Pattern.Engine

/-!
# Kept patterns

Compiled patterns can be kept for the next query with the same text and the same options.
-/

namespace TypedDocs.Pattern

/-- How many compiled patterns are kept. -/
def capacity : Nat := 128

/-- The compiled form of a text under option letters, kept or compiled now. -/
def compileKept {ρ : Type} (build : String → List Flag → Except String ρ)
    (m : Memo (String × String) ρ) (pattern options : String) :
    Except PatternError ρ × Memo (String × String) ρ :=
  m.find (some capacity) (fun key => compileWith build key.1 key.2) (pattern, options)

end TypedDocs.Pattern
