import TypedDocs.Caching.Edit
import TypedDocs.Store.Run

/-!
# The store with caches

The calls of a store when attributes and compiled patterns are kept from one call to the next.  Only
to make, to find and to edit documents is any of them looked up.  Every call gets the reply that
`Store` gives (`Caching.agrees_perform`).
-/

namespace TypedDocs.Caching

variable {ρ : Type} [Pattern.Engine ρ]

/-! ## Calls -/

/-- The document of a class or a mixin with values, and its class. -/
def newDocument (s : Store) (classId : String) (values : Layout) (id : String) :
    Caching ρ Fault (Document × String) := do
  let concrete ← ofExcept (s.hierarchy.concreteClass classId)
  let blank := Store.blankDocument s.hierarchy classId concrete id
  let doc ← (assign s.hierarchy s.strict classId blank values).adapt AssignmentFailure.fault
  ofExcept (Store.checkNew s.hierarchy concrete id doc)
  return (doc, concrete)

/-- Creates a document of a class, or of a mixin and its class, from loose values. -/
def create (s : Store) (classId : String) (values : Layout) (id : String) :
    StateM (Caches ρ) (Reply Document) :=
  if s.documents.contains id then return ⟨.error (.alreadyExists id), s, [.idTaken id]⟩
  else do
    let made ← (newDocument s classId values id).run
    return s.putNew id made

/-- Finds the documents that match a query in the scope of a classifier. -/
def find (s : Store) (classId : String) (query : Layout) :
    StateM (Caches ρ) (Reply (List Document)) :=
  match s.hierarchy.concreteClass classId with
  | .error fault => return s.reply (.error fault)
  | .ok base => do
    let result ← (matching s.hierarchy classId query (s.compared base)).run
    return s.answer classId result

/-- Edits the document with an id, after everything is looked up. -/
def edit (s : Store) (operation : Operation) (id : String)
    (work : Document → Caching ρ Fault (Editing Unit)) : StateM (Caches ρ) (Reply Unit) :=
  match s.documents.get? id with
  | none => return s.reply (.error (.notFound id))
  | some doc => do
    let left ← (work doc).run
    return s.edit operation id fun _ => finish left

/-- Writes values into the object that a selector leads to in a document. -/
def update (s : Store) (id : String) (selector : Selector) (values : Layout) :
    StateM (Caches ρ) (Reply Unit) :=
  edit s .update id fun doc =>
    leftOfSet s.hierarchy s.strict (Document.className doc) selector values doc

/-- Adds an item to the array that a selector leads to in a document. -/
def push (s : Store) (id : String) (selector : Selector) (value : Value) :
    StateM (Caches ρ) (Reply Unit) :=
  edit s .push id fun doc =>
    leftOfPush s.hierarchy s.strict (Document.className doc) selector value doc

/-- Removes a document, or what a selector that is not empty matches in it. -/
def remove (s : Store) (id : String) (selector : Selector) : StateM (Caches ρ) (Reply Unit) :=
  if selector.isEmpty then return s.remove id selector
  else edit s .pull id fun doc =>
    leftOfPull s.hierarchy (Document.className doc) selector doc

/-! ## Runs -/

/-- Performs a call. -/
def perform (s : Store) : Action → StateM (Caches ρ) (Reply Action.Result)
  | .create classId values id => do return (← create s classId values id).map .created
  | .find classId query => do return (← find s classId query).map .found
  | .update id selector values => do return (← update s id selector values).map fun _ => .done
  | .push id selector value => do return (← push s id selector value).map fun _ => .done
  | .remove id selector => do return (← remove s id selector).map fun _ => .done
  | .load docs => return s.perform (.load docs)
  | .view id classifier => return s.perform (.view id classifier)
  | .editView id classifier edits => return s.perform (.editView id classifier edits)
  | .cast id mixin edits => return s.perform (.cast id mixin edits)

/-- The replies to calls that are performed one after the other. -/
def replies (s : Store) : List Action → StateM (Caches ρ) (List (Reply Action.Result))
  | [] => return []
  | a :: actions => do
    let reply ← perform s a
    let rest ← replies reply.store actions
    return reply :: rest

end TypedDocs.Caching
