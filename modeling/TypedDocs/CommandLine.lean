import TypedDocs.Snapshot.File
import TypedDocs.Store.Search

/-!
# The command line

Without arguments the program names itself.  `dump` prints the documents of a snapshot file,
`find` those that match a query in the scope of a classifier.
-/

namespace TypedDocs

/-- What the command line asks for. -/
inductive Command where
  | version
  | dump (file : String)
  | find (file classId : String) (query : Layout)

/-- Why a command fails. -/
inductive CommandFault where
  | usage
  | queryNotObject
  | queryNotJson
  | snapshot (fault : SnapshotFault)
  | model (fault : Fault)
deriving DecidableEq, Repr

/-- The fault of a command in words. -/
def CommandFault.message : CommandFault → String
  | .usage =>
    "usage: docmodel_cli [find <snapshot.json> <class> [query-json] | dump <snapshot.json>]"
  | .queryNotObject => "query must be a JSON object"
  | .queryNotJson => "query is not valid JSON: the text is no JSON value"
  | .snapshot fault => fault.message
  | .model fault => fault.message

namespace Command

variable {ρ : Type} [Pattern.Engine ρ]

/-- The query of a text. -/
def parseQuery (text : String) : Except CommandFault Layout :=
  match Json.parse? text >>= Value.ofJson? with
  | some (.object query) => .ok query
  | some _ => .error .queryNotObject
  | none => .error .queryNotJson

/-- The command of arguments. -/
def ofArguments : List String → Except CommandFault Command
  | [] => .ok .version
  | ["dump", file] => .ok (.dump file)
  | ["find", file, classId] => .ok (.find file classId [])
  | ["find", file, classId, text] => (parseQuery text).map (.find file classId)
  | _ => .error .usage

/-- The file that a command reads. -/
def file? : Command → Option String
  | .version => none
  | .dump file | .find file _ _ => some file

/-- What the program says of itself. -/
def versionText : String := "docmodel_core ping=pong\ndocmodel_core version=0.1.0\n"

/-- The printed text of documents. -/
def documentsText (docs : List Document) : String :=
  (Json.array (docs.map Layout.toJson)).pretty ++ "\n"

/-- The store of a snapshot file. -/
def loadStore (content : Except FileFault String) : Except CommandFault Store × List Event :=
  let (store, events) := Snapshot.load content false
  (store.mapError .snapshot, events)

/-- The printed text of a command, given what reading its file gave, and what it reports. -/
def run (content : Except FileFault String) : Command → Except CommandFault String × List Event
  | .version => (.ok versionText, [])
  | .dump _ =>
    let (store, events) := loadStore content
    (store.map fun s => documentsText s.toList, events)
  | .find _ classId query =>
    let (store, events) := loadStore content
    match store with
    | .error fault => (.error fault, events)
    | .ok s =>
      let reply := s.find classId query
      match reply.result with
      | .error fault => (.error (.model fault), events ++ reply.events)
      | .ok docs =>
        (.ok (documentsText docs), events ++ reply.events ++ [.answered classId docs.length])

end Command

end TypedDocs
