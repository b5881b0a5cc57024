import TypedDocs.Hierarchy.Memo
import TypedDocs.Query.Kept

/-!
# Work with caches

From one call to the next two things are kept beside a store: the attributes that were found in its
hierarchy, and the patterns that were compiled.  Work that looks one of them up takes what is kept,
and what it has to compute is kept after it, be the work refused in the end or not.
-/

namespace TypedDocs

/-- The attributes found in a hierarchy, and the compiled patterns. -/
structure Caches (ρ : Type) where
  attributes : Hierarchy.KeptAttributes
  patterns : Query.KeptPatterns ρ

/-- Nothing. -/
def Caches.empty {ρ : Type} : Caches ρ := ⟨.empty, .empty⟩

/-- Work that looks things up in the caches, and may be refused. -/
abbrev Caching (ρ ε : Type) := ExceptT ε (StateM (Caches ρ))

namespace Caching

variable {ρ : Type}

/-- The nearest attribute with a name on the chain of a classifier, kept or looked up now. -/
def resolve (h : Hierarchy) (id name : String) : Caching ρ Fault ResolvedAttribute :=
  ExceptT.mk <| modifyGet fun c =>
    let (result, attributes) := h.resolveKept c.attributes id name
    (result, { c with attributes })

/-- The attribute that a stored key or a key of a query denotes for a classifier. -/
def resolveKey (h : Hierarchy) (id key : String) : Caching ρ Fault ResolvedAttribute :=
  match Key.parse key with
  | .plain _ => resolve h id key
  | .qualified name mixin => resolve h mixin name

/-- The pattern of a query, kept or compiled now. -/
def compile [Pattern.Engine ρ] (query : Layout) : Caching ρ Fault ρ :=
  ExceptT.mk <| modifyGet fun c =>
    let (result, patterns) := Query.compileKept Pattern.Engine.build c.patterns query
    (result, { c with patterns })

end Caching

end TypedDocs
