import TypedDocs.Json.Printer
import TypedDocs.Json.Reader
import TypedDocs.Snapshot.Basic

/-!
# Snapshot files

A snapshot file holds the indented text of a snapshot.  Reading one fails when the file cannot
be read, when its text is no snapshot, or when the store refuses what it holds.
-/

namespace TypedDocs

/-- Why a file cannot be read or written. -/
inductive FileFault where
  | missing
  | other (reason : String)
deriving DecidableEq, Repr

/-- The fault of a file in words. -/
def FileFault.message : FileFault → String
  | .missing => "No such file or directory (os error 2)"
  | .other reason => reason

/-- Why a store cannot be read from a snapshot file. -/
inductive SnapshotFault where
  | file (fault : FileFault)
  | json
  | model (fault : Fault)
deriving DecidableEq, Repr

/-- The fault of a snapshot in words. -/
def SnapshotFault.message : SnapshotFault → String
  | .file fault => "snapshot io failed: " ++ fault.message
  | .json => "snapshot json is invalid: the text is no snapshot"
  | .model fault => "snapshot rejected by model: " ++ fault.message

namespace Snapshot

/-- The snapshot of a text. -/
def parse (text : String) : Except SnapshotFault Snapshot :=
  match Json.parse? text >>= ofJson? with
  | some s => .ok s
  | none => .error .json

/-- The text of a snapshot. -/
def text (s : Snapshot) : String := s.toJson.pretty

/-- The event of a snapshot that was read. -/
def readEvent (s : Snapshot) : Event := .snapshotRead s.classifiers.length s.documents.length

/-- The store of a file, given what reading the file gave, and what the reading reports. -/
def load (content : Except FileFault String) (strict : Bool) :
    Except SnapshotFault Store × List Event :=
  match content with
  | .error fault => (.error (.file fault), [])
  | .ok text =>
    match parse text with
    | .error fault => (.error fault, [])
    | .ok s =>
      let (store, events) := s.restore strict
      match store with
      | .error fault => (.error (.model fault), s.readEvent :: events)
      | .ok store => (.ok store, s.readEvent :: events)

end Snapshot

end TypedDocs
