import TypedDocs.Classifier.Codec
import TypedDocs.Store.Basic

/-!
# Snapshots

A snapshot is what a store is made from: its classifiers and its documents.  A store is
restored by loading the classifiers and then the documents.  In JSON a snapshot is an object
with these two lists.
-/

namespace TypedDocs

/-- The classifiers and the documents of a store. -/
structure Snapshot where
  classifiers : List Classifier
  documents : List Document

namespace Snapshot

/-- The store of a snapshot, and what its loading reports. -/
def restore (s : Snapshot) (strict : Bool) : Except Fault Store × List Event :=
  match Hierarchy.ofList s.classifiers with
  | .error fault => (.error fault, [])
  | .ok h =>
    let reply := (Store.empty h strict).load s.documents
    let store := match reply.result with
      | .ok _ => .ok reply.store
      | .error fault => .error fault
    (store, .modelLoaded h.size h.mixinCount :: reply.events)

/-- The snapshot that a node denotes. -/
def ofJson? (j : Json) : Option Snapshot :=
  match Json.record? ["classifiers", "documents"] j with
  | some [some classifiers, some documents] => do
    return {
      classifiers := ← (← classifiers.items?).mapM Classifier.ofJson?
      documents := ← (← documents.items?).mapM Layout.ofJson? }
  | _ => none

/-- The node of a snapshot. -/
def toJson (s : Snapshot) : Json :=
  .object
    [("classifiers", .array (s.classifiers.map Classifier.toJson)),
      ("documents", .array (s.documents.map Layout.toJson))]

end Snapshot

/-- The snapshot of a store. -/
def Store.snapshot (s : Store) : Snapshot := ⟨s.hierarchy.toList, s.toList⟩

end TypedDocs
