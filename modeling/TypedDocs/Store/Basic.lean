import TypedDocs.View

/-!
# The store

The store holds the documents of a hierarchy under their ids, in order of ids.  Besides it
keeps the accessor tables built so far and, from a search to the next change of the documents'
set, an index of their ids by class.

Every operation gives its result, the store after it, and the events it reports.
-/

namespace TypedDocs

/-- Documents under their ids, in order of ids. -/
structure Documents where
  entries : Keyed Document
  sorted : entries.Sorted

namespace Documents

/-- No documents. -/
def empty : Documents := ⟨[], List.Pairwise.nil⟩

/-- The document under an id. -/
def get? (d : Documents) (id : String) : Option Document := d.entries.get? id

/-- Whether there is a document under an id. -/
def contains (d : Documents) (id : String) : Bool := d.entries.contains id

/-- Puts a document under an id. -/
def insert (d : Documents) (id : String) (doc : Document) : Documents :=
  ⟨d.entries.insert id doc, d.sorted.insert id doc⟩

/-- Takes the document under an id away. -/
def erase (d : Documents) (id : String) : Documents := ⟨d.entries.erase id, d.sorted.erase id⟩

/-- How many documents there are. -/
def size (d : Documents) : Nat := d.entries.length

/-- The documents in order of ids. -/
def toList (d : Documents) : List Document := d.entries.map Prod.snd

/-! ## Lemmas on documents -/

variable {d : Documents} {id other : String} {doc : Document}

/-- Documents are determined by their entries. -/
theorem eq_of_entries {d' : Documents} (he : d.entries = d'.entries) : d = d' := by
  obtain ⟨entries, sorted⟩ := d
  cases he
  rfl

@[simp] theorem get?_empty (id : String) : empty.get? id = none := rfl

theorem get?_insert (d : Documents) (id other : String) (doc : Document) :
    (d.insert id doc).get? other = if other = id then some doc else d.get? other :=
  Keyed.get?_insert d.entries id other doc

theorem get?_insert_self (d : Documents) (id : String) (doc : Document) :
    (d.insert id doc).get? id = some doc :=
  Keyed.get?_insert_self d.entries id doc

theorem get?_erase (d : Documents) (id other : String) :
    (d.erase id).get? other = if other = id then none else d.get? other :=
  Keyed.get?_erase d.entries id other

theorem get?_eq_some_iff : d.get? id = some doc ↔ (id, doc) ∈ d.entries :=
  d.sorted.get?_eq_some_iff

theorem mem_toList_iff : doc ∈ d.toList ↔ ∃ id, d.get? id = some doc := by
  rw [toList, List.mem_map]
  constructor
  · rintro ⟨⟨id, found⟩, hm, rfl⟩
    exact ⟨id, get?_eq_some_iff.2 hm⟩
  · rintro ⟨id, hid⟩
    exact ⟨(id, doc), get?_eq_some_iff.1 hid, rfl⟩

theorem contains_eq_true_iff : d.contains id = true ↔ ∃ doc, d.get? id = some doc :=
  Option.isSome_iff_exists

theorem contains_eq_false_iff : d.contains id = false ↔ d.get? id = none :=
  Option.isSome_eq_false_iff.trans Option.isNone_iff_eq_none

/-- Putting back what is there changes nothing. -/
theorem insert_eq_self (hd : d.get? id = some doc) : d.insert id doc = d := by
  obtain ⟨entries, sorted⟩ := d
  simp only [insert, Documents.mk.injEq]
  exact sorted.insert_eq_self hd

theorem insert_insert (d : Documents) (id : String) (a b : Document) :
    (d.insert id a).insert id b = d.insert id b := by
  simp only [insert, Documents.mk.injEq]
  exact Keyed.insert_insert d.entries id a b

end Documents

/-- The ids of documents under their classes. -/
abbrev ClassIndex := Keyed (List String)

/-- The documents of a hierarchy. -/
structure Store where
  hierarchy : Hierarchy
  strict : Bool
  views : Views
  documents : Documents
  index : Option ClassIndex

/-- What an operation gives: its result, the store after it, and the events it reports. -/
structure Reply (α : Type) where
  result : Except Fault α
  store : Store
  events : List Event

namespace Store

/-- A store without documents; `strict` refuses what is no array under an array type. -/
def empty (h : Hierarchy) (strict : Bool) : Store := ⟨h, strict, .empty, .empty, none⟩

/-- How many documents there are. -/
def size (s : Store) : Nat := s.documents.size

/-- The documents in order of ids. -/
def toList (s : Store) : List Document := s.documents.toList

/-- The document with an id. -/
def get (s : Store) (id : String) : Except Fault Document :=
  match s.documents.get? id with
  | some doc => .ok doc
  | none => .error (.notFound id)

/-- Whether a mixin is applied to the document with an id. -/
def hasMixin (s : Store) (id mixin : String) : Except Fault Bool := do
  return Document.hasMixin (← s.get id) mixin

/-- An answer that changes nothing and reports nothing. -/
def reply {α : Type} (s : Store) (result : Except Fault α) : Reply α := ⟨result, s, []⟩

/-! ## Loading -/

/-- Refuses a document that the store cannot hold: its identity fields must have their form,
its class must be a class, and its mixins must be applicable. -/
def checkAdmissible (h : Hierarchy) (doc : Document) : Except Fault Unit := do
  Document.validate doc
  let c ← h.get (Document.className doc)
  if c.kind ≠ .concrete then
    throw (.invalidDocument (.classIsMixin (Document.id doc) (Document.className doc)))
  match doc.get? Document.mixinsKey with
  | some mixins => h.checkMixins (Document.className doc) mixins
  | none => return

/-- Adds documents, whose ids must all be new; the first fault is the answer. -/
def stage (h : Hierarchy) (documents : Documents) : List Document → Except Fault Documents
  | [] => .ok documents
  | doc :: docs => do
    checkAdmissible h doc
    let id := Document.id doc
    if documents.contains id then throw (.alreadyExists id)
    stage h (documents.insert id doc) docs

/-- Loads documents, all of them or none. -/
def load (s : Store) (docs : List Document) : Reply Nat :=
  match stage s.hierarchy s.documents docs with
  | .error fault => s.reply (.error fault)
  | .ok documents =>
    { result := .ok docs.length
      store := { s with documents := documents, index := none }
      events := [.documentsLoaded docs.length documents.size] }

end Store

end TypedDocs
