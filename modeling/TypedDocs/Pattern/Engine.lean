import TypedDocs.Pattern.Option

/-!
# Pattern engines

An engine makes a pattern of a text and flags, or says why it makes none, and searches a text for
a pattern.  What uses patterns takes the engine as a parameter and knows nothing else of it.
-/

namespace TypedDocs.Pattern

/-- What makes patterns, which are of the type `ρ`, and searches for them. -/
class Engine (ρ : outParam Type) where
  build : String → List Flag → Except String ρ
  occursIn : ρ → String → Bool

/-- What `build` makes of a text under option letters, which are read first. -/
def compileWith {ρ : Type} (build : String → List Flag → Except String ρ)
    (pattern options : String) : Except PatternError ρ := do
  let flags ← optionFlags options.toList
  (build pattern flags).mapError .rejected

variable {ρ : Type} [Engine ρ]

/-- The pattern of a text under option letters. -/
def compile (pattern options : String) : Except PatternError ρ :=
  compileWith Engine.build pattern options

end TypedDocs.Pattern
