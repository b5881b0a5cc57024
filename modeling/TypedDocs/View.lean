import TypedDocs.Event
import TypedDocs.Hierarchy.Typing

/-!
# Views

A view shows a document as one of its classes or mixins: the attributes visible from that
classifier, each at the key it is stored under.  Which they are is kept in a table for each
classifier, built once, after the tables of the classifiers it extends.
-/

namespace TypedDocs

/-! ## Tables -/

/-- Where an attribute is stored, and which classifier declares it. -/
structure Accessor where
  key : Key
  owner : String
deriving DecidableEq, Repr

/-- The attributes visible from a classifier: a layer for each classifier of its chain, the
nearest first. -/
structure AccessorTable where
  classifier : String
  kind : ClassifierKind
  layers : List (Keyed Accessor)

namespace AccessorTable

/-- The attributes that a classifier itself declares. -/
def layerOf (c : Classifier) : Keyed Accessor :=
  Keyed.ofEntries (c.attributes.map fun a => (a.name, ⟨c.keyOf a.name, c.id⟩))

/-- The accessor of a name, from the nearest layer that has it. -/
def accessor? (t : AccessorTable) (name : String) : Option Accessor :=
  t.layers.findSome? fun layer => layer.get? name

/-- The names of layers: those of the first, then those that only later ones have. -/
def namesOf : List (Keyed Accessor) → List String
  | [] => []
  | layer :: layers => layer.keys ++ (namesOf layers).filter fun name => !layer.contains name

/-- The visible names, the nearest layer first. -/
def names (t : AccessorTable) : List String := namesOf t.layers

/-- The accessor of a name that must be visible. -/
def require (t : AccessorTable) (name : String) : Except Fault Accessor :=
  match t.accessor? name with
  | some a => .ok a
  | none => .error (.attributeNotFound t.classifier name)

end AccessorTable

/-- The tables built so far, under the ids of their classifiers. -/
structure Views where
  tables : Keyed AccessorTable

namespace Views

/-- No tables. -/
def empty : Views := ⟨[]⟩

/-- How many tables there are. -/
def size (v : Views) : Nat := v.tables.length

/-- The layers of a chain of classifiers, with the tables that were missing built, those of the
ancestors first. -/
def buildChain (v : Views) : List Classifier → List (Keyed Accessor) × Views × List Event
  | [] => ([], v, [])
  | c :: parents =>
    match v.tables.get? c.id with
    | some t => (t.layers, v, [])
    | none =>
      let (layers, v, events) := buildChain v parents
      let t : AccessorTable := ⟨c.id, c.kind, AccessorTable.layerOf c :: layers⟩
      (t.layers, ⟨v.tables.insert c.id t⟩, events ++ [.tableBuilt c.id])

/-- The table of a classifier, the tables after it was asked for, and what was built. -/
def table (v : Views) (h : Hierarchy) (id : String) :
    Except Fault AccessorTable × Views × List Event :=
  match v.tables.get? id with
  | some t => (.ok t, v, [])
  | none =>
    match h.find? id with
    | none => (.error (.notFound id), v, [])
    | some c =>
      let (layers, v, events) := buildChain v (h.ancestors id)
      (.ok ⟨c.id, c.kind, layers⟩, v, events)

end Views

/-! ## Views of a document -/

/-- A layout seen through the table of a classifier. -/
structure View where
  table : AccessorTable
  layout : Layout

/-- What can be done through a view. -/
inductive ViewEdit where
  | get (name : String)
  | set (name : String) (value : Value)
  | remove (name : String)

namespace View

/-- The class that a view shows: the mixin, or the document's own class. -/
def classId (v : View) : String :=
  match v.table.kind with
  | .mixin => v.table.classifier
  | .concrete => (Document.tag? v.layout).getD v.table.classifier

/-- Reads an attribute. -/
def get (v : View) (name : String) : Except Fault (Option Value) := do
  let a ← v.table.require name
  return v.layout.get? a.key.wire

/-- Writes an attribute; returns what it was. -/
def set (v : View) (name : String) (value : Value) : Except Fault (Option Value × View) := do
  let a ← v.table.require name
  return (v.layout.get? a.key.wire, { v with layout := v.layout.insert a.key.wire value })

/-- Takes an attribute away; returns what it was. -/
def remove (v : View) (name : String) : Except Fault (Option Value × View) := do
  let a ← v.table.require name
  return (v.layout.get? a.key.wire, { v with layout := v.layout.erase a.key.wire })

/-- Does one thing through a view; one that fails changes nothing. -/
def apply (v : View) : ViewEdit → Except Fault (Option Value) × View
  | .get name => (v.get name, v)
  | .set name value =>
    match v.set name value with
    | .ok (old, v) => (.ok old, v)
    | .error fault => (.error fault, v)
  | .remove name =>
    match v.remove name with
    | .ok (old, v) => (.ok old, v)
    | .error fault => (.error fault, v)

/-- Does several things through a view, one after the other. -/
def applyAll (v : View) : List ViewEdit → List (Except Fault (Option Value)) × View
  | [] => ([], v)
  | e :: es =>
    let (result, v) := v.apply e
    let (results, v) := applyAll v es
    (result :: results, v)

end View

/-- Refuses a document that is not of the class of a table. -/
def AccessorTable.check (t : AccessorTable) (h : Hierarchy) (doc : Document) : Except Fault Unit :=
  if t.kind == .concrete && !h.isSubtype (Document.className doc) t.classifier then
    .error (.incompatibleMixin t.classifier (Document.className doc))
  else .ok ()

/-- The view of a document as a classifier. -/
def Views.view (v : Views) (h : Hierarchy) (doc : Document) (id : String) :
    Except Fault View × Views × List Event :=
  let (table, v, events) := v.table h id
  let view := do
    let t ← table
    t.check h doc
    return ⟨t, doc⟩
  (view, v, events)

end TypedDocs
