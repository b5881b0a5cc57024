import TypedDocs.Pattern.Memo
import TypedDocs.Query

/-!
# Compiled patterns of queries

A query that asks for a pattern has it compiled, or takes what is kept from an earlier query with
the same text and the same options.  All queries share one memo, whatever store they are made in.
What makes a text a pattern is a parameter: a compiler is given the text and the flags.
-/

namespace TypedDocs.Query

/-- Compiled patterns under their texts and their options. -/
abbrev KeptPatterns (ρ : Type) := Memo (String × String) ρ

/-- The text and the options of a query's pattern; what is missing or no text counts as empty. -/
def askedPattern (query : Layout) : String × String :=
  (((query.get? patternKey).bind Value.string?).getD "",
    ((query.get? optionsKey).bind Value.string?).getD "")

section Compiler

variable {ρ : Type} (build : String → List Pattern.Flag → Except String ρ)

/-- What the compiler makes of the pattern of a query. -/
def compile (query : Layout) : Except Fault ρ :=
  let asked := askedPattern query
  (Pattern.compileWith build asked.1 asked.2).mapError (.invalidPattern asked.1)

/-- The compiled pattern of a query, kept or compiled now. -/
def compileKept (m : KeptPatterns ρ) (query : Layout) : Except Fault ρ × KeptPatterns ρ :=
  let asked := askedPattern query
  let (result, m) := Pattern.compileKept build m asked.1 asked.2
  (result.mapError (.invalidPattern asked.1), m)

/-- The compiled patterns of queries that come one after the other, and what is kept after them. -/
def compileAll (m : KeptPatterns ρ) : List Layout → List (Except Fault ρ) × KeptPatterns ρ
  | [] => ([], m)
  | query :: queries =>
    let (result, m) := compileKept build m query
    let (results, m) := compileAll m queries
    (result :: results, m)

end Compiler

end TypedDocs.Query
