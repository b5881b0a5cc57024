import TypedDocs.Hierarchy.Memo
import TypedDocs.View

/-!
# Lookups

Beside a hierarchy two things are kept that were found in it: the attributes that names denote, and
the tables of accessors.  A lookup asks for one of them, and the next one finds what it has kept.
-/

namespace TypedDocs

/-- A question about a hierarchy whose answer is kept. -/
inductive Lookup where
  | resolve (id name : String)
  | table (id : String)

/-- What is kept beside a hierarchy. -/
structure Kept where
  attributes : Hierarchy.KeptAttributes
  views : Views

namespace Kept

/-- Nothing. -/
def empty : Kept := ⟨.empty, .empty⟩

/-! ## Answers -/

/-- The attribute that a name denotes for a classifier. -/
def resolve (k : Kept) (h : Hierarchy) (id name : String) : Except Fault ResolvedAttribute :=
  (h.resolveKept k.attributes id name).1

/-- All attributes of a classifier. -/
def attributesOf (k : Kept) (h : Hierarchy) (id : String) :
    Except Fault (List ResolvedAttribute) :=
  (h.attributesKept k.attributes id).1

/-- The table of a classifier. -/
def table (k : Kept) (h : Hierarchy) (id : String) : Except Fault AccessorTable :=
  (k.views.table h id).1

/-- The view of a document as a classifier. -/
def view (k : Kept) (h : Hierarchy) (doc : Document) (id : String) : Except Fault View :=
  (k.views.view h doc id).1

/-! ## Runs -/

/-- What is kept after a lookup. -/
def step (h : Hierarchy) (k : Kept) : Lookup → Kept
  | .resolve id name => { k with attributes := (h.resolveKept k.attributes id name).2 }
  | .table id => { k with views := (k.views.table h id).2.1 }

/-- What is kept after several lookups, when nothing was kept before. -/
def after (h : Hierarchy) (calls : List Lookup) : Kept := calls.foldl (step h) empty

end Kept

end TypedDocs
