import TypedDocs.Query
import TypedDocs.Store.Basic

/-!
# Searching the store

A search runs over the documents whose class extends the concrete class of its scope, in order
of ids.  The index gives them; a search that finds none builds it.  `scan` walks all documents
instead.
-/

namespace TypedDocs.Store

variable {ρ : Type} [Pattern.Engine ρ]

/-! ## The index -/

/-- Adds an id under a class. -/
def indexOne (index : ClassIndex) (classId id : String) : ClassIndex :=
  index.insert classId ((index.get? classId).getD [] ++ [id])

/-- The ids of documents under their classes. -/
def indexOf (documents : Documents) : ClassIndex :=
  documents.entries.foldl (fun index e => indexOne index (Document.className e.2) e.1) []

/-- The ids that an index has for the classes that extend `base`, in order. -/
def candidates (h : Hierarchy) (index : ClassIndex) (base : String) : List String :=
  let ids := (index.filter fun e => h.isSubtype e.1 base).flatMap Prod.snd
  ids.mergeSort fun a b => !decide (b < a)

/-- The store with its index, and the event of its building. -/
def withIndex (s : Store) : ClassIndex × Store × List Event :=
  match s.index with
  | some index => (index, s, [])
  | none =>
    let index := indexOf s.documents
    (index, { s with index := some index }, [.indexBuilt index.length s.size])

/-! ## Search -/

/-- The documents that match a query in the scope of a classifier; the first fault is the
answer. -/
def matching (h : Hierarchy) (classId : String) (query : Layout) :
    List Document → Except Fault (List Document)
  | [] => .ok []
  | doc :: docs => do
    let hit ← Query.matchDocument h classId doc query
    let rest ← matching h classId query docs
    return if hit then doc :: rest else rest

/-- The documents that a search in the scope of a class compares with its query. -/
def compared (s : Store) (base : String) : List Document :=
  (candidates s.hierarchy s.withIndex.1 base).filterMap s.documents.get?

/-- The reply to a search in the scope of a classifier, which builds the index if there is none. -/
def answer (s : Store) (classId : String) (result : Except Fault (List Document)) :
    Reply (List Document) :=
  let (_, s, built) := s.withIndex
  match result with
  | .error fault => ⟨.error fault, s, built⟩
  | .ok found => ⟨.ok found, s, built ++ [.searched classId found.length]⟩

/-- Building the index does not show in the result. -/
theorem result_answer (s : Store) (classId : String) (result : Except Fault (List Document)) :
    (s.answer classId result).result = result := by
  cases result <;> rfl

/-- Finds the documents that match a query in the scope of a classifier. -/
def find (s : Store) (classId : String) (query : Layout) : Reply (List Document) :=
  match s.hierarchy.concreteClass classId with
  | .error fault => s.reply (.error fault)
  | .ok base => s.answer classId (matching s.hierarchy classId query (s.compared base))

/-- Finds the documents by walking all of them. -/
def scan (s : Store) (classId : String) (query : Layout) : Except Fault (List Document) := do
  let _ ← s.hierarchy.concreteClass classId
  matching s.hierarchy classId query s.toList

end TypedDocs.Store
