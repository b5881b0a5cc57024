import TypedDocs.Edit
import TypedDocs.Store.Basic

/-!
# Changing the documents of the store

Documents are created from loose values, edited at the place a selector leads to, seen and
written through views, and removed.  An operation that fails leaves the documents as they were.
-/

namespace TypedDocs.Store

variable {ρ : Type} [Pattern.Engine ρ]

/-! ## Creation -/

/-- The layout of a new document before its values are written. -/
def blankDocument (h : Hierarchy) (classId concrete id : String) : Layout :=
  let base : Layout := Keyed.insert (Keyed.insert [] Document.idKey (.string id))
    Document.classKey (.string concrete)
  if h.isMixin classId then base.insert Document.mixinsKey (.array [.string classId]) else base

/-- Refuses a new document whose values have given it another identity than the one it was made
with, or mixins that it cannot have. -/
def checkNew (h : Hierarchy) (concrete id : String) (doc : Document) : Except Fault Unit := do
  Document.validate doc
  if Document.id doc ≠ id then throw (.invalidDocument (.idDiffers id))
  if Document.className doc ≠ concrete then throw (.invalidDocument (.classDiffers concrete))
  match doc.get? Document.mixinsKey with
  | some mixins => h.checkMixins concrete mixins
  | none => return

/-- The document of a class or a mixin with values, and its class. -/
def newDocument (s : Store) (classId : String) (values : Layout) (id : String) :
    Except Fault (Document × String) := do
  let h := s.hierarchy
  let concrete ← h.concreteClass classId
  match Assignment.assign h s.strict classId (blankDocument h classId concrete id) values with
  | .error failure => throw failure.fault
  | .ok doc =>
    checkNew h concrete id doc
    return (doc, concrete)

/-- Puts a document of a class under a new id, if it could be made. -/
def putNew (s : Store) (id : String) : Except Fault (Document × String) → Reply Document
  | .error fault => s.reply (.error fault)
  | .ok (doc, concrete) =>
    { result := .ok doc
      store := { s with documents := s.documents.insert id doc, index := none }
      events := [.created id concrete] }

/-- Creates a document of a class, or of a mixin and its class, from loose values. -/
def create (s : Store) (classId : String) (values : Layout) (id : String) : Reply Document :=
  if s.documents.contains id then ⟨.error (.alreadyExists id), s, [.idTaken id]⟩
  else s.putNew id (s.newDocument classId values id)

/-! ## Edits -/

/-- Edits the document with an id in place and reports the edit, also one that is refused. -/
def edit (s : Store) (operation : Operation) (id : String) (change : Document → Editing Unit) :
    Reply Unit :=
  match s.documents.get? id with
  | none => s.reply (.error (.notFound id))
  | some doc =>
    match change doc doc with
    | .error fault doc =>
      { result := .error fault
        store := { s with documents := s.documents.insert id doc }
        events := [.editRefused operation id fault] }
    | .ok () doc =>
      { result := .ok ()
        store := { s with documents := s.documents.insert id doc }
        events := [.edited operation id] }

/-- Writes values into the object that a selector leads to in a document. -/
def update (s : Store) (id : String) (selector : Selector) (values : Layout) : Reply Unit :=
  s.edit .update id fun doc =>
    Edit.set s.hierarchy s.strict (Document.className doc) selector values

/-- Adds an item to the array that a selector leads to in a document. -/
def push (s : Store) (id : String) (selector : Selector) (value : Value) : Reply Unit :=
  s.edit .push id fun doc =>
    Edit.push s.hierarchy s.strict (Document.className doc) selector value

/-- Removes a document, or what a selector that is not empty matches in it. -/
def remove (s : Store) (id : String) (selector : Selector) : Reply Unit :=
  if selector.isEmpty then
    if s.documents.contains id then
      { result := .ok ()
        store := { s with documents := s.documents.erase id, index := none }
        events := [.removed id] }
    else s.reply (.error (.notFound id))
  else s.edit .pull id fun doc => Edit.pull s.hierarchy (Document.className doc) selector

/-! ## Views -/

/-- The document with an id as a classifier shows it. -/
def view (s : Store) (id classifier : String) : Reply View :=
  match s.documents.get? id with
  | none => s.reply (.error (.notFound id))
  | some doc =>
    let (view, views, events) := s.views.view s.hierarchy doc classifier
    ⟨view, { s with views := views }, events⟩

/-- What was done through a view: the results, and the view after it. -/
abbrev ViewResults := List (Except Fault (Option Value)) × View

/-- Does things through a view of the document with an id. -/
def editView (s : Store) (id classifier : String) (edits : List ViewEdit) : Reply ViewResults :=
  let ⟨view, s, events⟩ := s.view id classifier
  match view with
  | .error fault => ⟨.error fault, s, events⟩
  | .ok view =>
    let (results, view) := view.applyAll edits
    ⟨.ok (results, view), { s with documents := s.documents.insert id view.layout }, events⟩

/-- Applies a mixin to the document with an id, once, and does things through its view. -/
def cast (s : Store) (id mixin : String) (edits : List ViewEdit) : Reply ViewResults :=
  match s.documents.get? id with
  | none => s.reply (.error (.notFound id))
  | some doc =>
    match s.hierarchy.checkMixin (Document.className doc) mixin with
    | .error fault => s.reply (.error fault)
    | .ok () =>
      if Document.hasMixin doc mixin then s.editView id mixin edits
      else
        let documents := s.documents.insert id (Document.addMixin doc mixin)
        let reply := { s with documents := documents }.editView id mixin edits
        { reply with events := .mixinCast (Document.id doc) mixin :: reply.events }

end TypedDocs.Store
