import TypedDocs.Fault

/-!
# Events

What the store reports of its work, each with a level and a line.  A line names ids, classes,
counts and faults.
-/

namespace TypedDocs

/-- The levels of log lines. -/
inductive LogLevel where
  | trace
  | debug
  | info
  | warn
  | error
deriving DecidableEq, Repr

/-- The edits of a stored document that are reported. -/
inductive Operation where
  | update
  | push
  | pull
deriving DecidableEq, Repr

/-- The name of an edit in log lines. -/
def Operation.label : Operation → String
  | .update => "update"
  | .push => "push"
  | .pull => "pull"

/-- What the store reports. -/
inductive Event where
  | modelLoaded (classifiers mixins : Nat)
  | documentsLoaded (count total : Nat)
  | idTaken (id : String)
  | created (id classId : String)
  | indexBuilt (classes documents : Nat)
  | searched (classId : String) (hits : Nat)
  | edited (operation : Operation) (id : String)
  | editRefused (operation : Operation) (id : String) (fault : Fault)
  | removed (id : String)
  | tableBuilt (classifier : String)
  | mixinCast (id mixin : String)
  | snapshotRead (classifiers documents : Nat)
  | answered (classId : String) (hits : Nat)
deriving DecidableEq, Repr

namespace Event

/-- The level of an event. -/
def level : Event → LogLevel
  | .modelLoaded .. | .documentsLoaded .. | .snapshotRead .. | .answered .. => .info
  | .idTaken .. | .editRefused .. => .warn
  | _ => .debug

/-- The line of an event: what happened, in which part, how it ended, and the particulars. -/
def line : Event → String
  | .modelLoaded classifiers mixins =>
    "event=model_load module=schema status=ok classifiers=" ++ toString classifiers
      ++ " mixins=" ++ toString mixins
  | .documentsLoaded count total =>
    "event=documents_load module=store status=ok count=" ++ toString count
      ++ " total=" ++ toString total
  | .idTaken id =>
    "event=document_create module=store status=error error_code=already_exists doc_id=" ++ id
  | .created id classId =>
    "event=document_create module=store status=ok doc_id=" ++ id ++ " class=" ++ classId
  | .indexBuilt classes documents =>
    "event=class_index_build module=store status=ok classes=" ++ toString classes
      ++ " documents=" ++ toString documents
  | .searched classId hits =>
    "event=find module=store status=ok class=" ++ classId ++ " hits=" ++ toString hits
  | .edited operation id =>
    "event=document_" ++ operation.label ++ " module=store status=ok doc_id=" ++ id
  | .editRefused operation id fault =>
    "event=document_" ++ operation.label ++ " module=store status=error doc_id=" ++ id
      ++ " error=" ++ fault.message
  | .removed id => "event=document_remove module=store status=ok doc_id=" ++ id
  | .tableBuilt classifier =>
    "event=view_table_build module=view status=ok classifier=" ++ classifier
  | .mixinCast id mixin =>
    "event=mixin_cast module=view status=ok doc_id=" ++ id ++ " mixin=" ++ mixin
  | .snapshotRead classifiers documents =>
    "event=snapshot_read module=store status=ok classifiers=" ++ toString classifiers
      ++ " documents=" ++ toString documents
  | .answered classId hits =>
    "event=cli_find module=cli status=ok class=" ++ classId ++ " hits=" ++ toString hits

end Event

end TypedDocs
