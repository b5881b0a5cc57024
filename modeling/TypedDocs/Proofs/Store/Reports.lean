import TypedDocs.Pattern.Basic
import TypedDocs.Proofs.Store.Index

/-!
# What a change reports

Creating, updating, pushing, pulling and removing report how they ended, in one event: a debug line
when they succeed, and a warning when they are refused for an id under which a document is stored.
A call that finds no document under its id, or makes none, reports nothing.

    a.mutation? = some (operation, id) → (s.perform a).result = .error fault →
      (s.perform a).events = [e] with a warning `e`   when a document is stored under `id`
      (s.perform a).events = []                       otherwise               (reports_of_mutation)
-/

namespace TypedDocs

/-! ## Definitions -/

/-- The operation that a call is in log lines, and the id that it is for, when it is to change one
document. -/
def Action.mutation? : Action → Option (String × String)
  | .create _ _ id => some ("create", id)
  | .update id _ _ => some (Operation.update.label, id)
  | .push id _ _ => some (Operation.push.label, id)
  | .remove id [] => some ("remove", id)
  | .remove id (_ :: _) => some (Operation.pull.label, id)
  | _ => none

/-- The event has the level, and its line says that the operation on a document ended so. -/
def Event.Tells (e : Event) (level : LogLevel) (operation status : String) : Prop :=
  e.level = level ∧ ∃ particulars, e.line =
    "event=document_" ++ operation ++ " module=store status=" ++ status ++ " " ++ particulars

namespace Store

section Engine

variable {ρ : Type} [Pattern.Engine ρ]

/-- A call is to change the document with an id in place, as an operation. -/
inductive Changes (s : Store) :
    Action → Operation → String → (Document → Editing Unit) → Prop where
  | update (id : String) (selector : Selector) (values : Layout) :
    Changes s (.update id selector values) .update id fun doc =>
      Edit.set s.hierarchy s.strict (Document.className doc) selector values
  | push (id : String) (selector : Selector) (value : Value) :
    Changes s (.push id selector value) .push id fun doc =>
      Edit.push s.hierarchy s.strict (Document.className doc) selector value
  | pull (id : String) (first : SelectorStep) (rest : Selector) :
    Changes s (.remove id (first :: rest)) .pull id fun doc =>
      Edit.pull s.hierarchy (Document.className doc) (first :: rest)

/-- How a call that is to change one document ends, and what it reports. -/
inductive Reports (s : Store) : Action → Except Fault Action.Result → List Event → Prop where
  | taken {classId id : String} {values : Layout} (hid : s.documents.contains id = true) :
    Reports s (.create classId values id) (.error (.alreadyExists id)) [.idTaken id]
  | unmade {classId id : String} {values : Layout} {fault : Fault}
    (hid : s.documents.contains id = false)
    (hdoc : s.newDocument classId values id = .error fault) :
    Reports s (.create classId values id) (.error fault) []
  | made {classId id concrete : String} {values : Layout} {doc : Document}
    (hdoc : s.newDocument classId values id = .ok (doc, concrete)) :
    Reports s (.create classId values id) (.ok (.created doc)) [.created id concrete]
  | missing {a : Action} {op : Operation} {id : String} {change : Document → Editing Unit}
    (hc : s.Changes a op id change) (hid : s.documents.contains id = false) :
    Reports s a (.error (.notFound id)) []
  | refused {a : Action} {op : Operation} {id : String} {change : Document → Editing Unit}
    {doc left : Document} {fault : Fault} (hc : s.Changes a op id change)
    (hid : s.documents.get? id = some doc) (he : change doc doc = .error fault left) :
    Reports s a (.error fault) [.editRefused op id fault]
  | edited {a : Action} {op : Operation} {id : String} {change : Document → Editing Unit}
    (hc : s.Changes a op id change) : Reports s a (.ok .done) [.edited op id]
  | absent {id : String} (hid : s.documents.contains id = false) :
    Reports s (.remove id []) (.error (.notFound id)) []
  | removed {id : String} : Reports s (.remove id []) (.ok .done) [.removed id]

variable {s : Store} {a : Action} {op : Operation} {id operation : String}
  {change : Document → Editing Unit} {result : Except Fault Action.Result} {events : List Event}

/-! ## Changes in place -/

theorem Changes.perform_eq (hc : s.Changes a op id change) :
    s.perform a = (s.edit op id change).map fun _ => .done := by
  cases hc <;> rfl

theorem Changes.mutation?_eq (hc : s.Changes a op id change) :
    a.mutation? = some (op.label, id) := by
  cases hc <;> rfl

theorem Changes.reports (hc : s.Changes a op id change) :
    s.Reports a (s.perform a).result (s.perform a).events := by
  rw [hc.perform_eq, edit]
  cases hid : s.documents.get? id with
  | none => exact .missing hc (Documents.contains_eq_false_iff.2 hid)
  | some doc =>
    simp only
    cases he : change doc doc with
    | error fault left => exact .refused hc hid he
    | ok _ doc' => exact .edited hc

/-! ## All changes -/

theorem reports_create (classId : String) (values : Layout) (id : String) :
    s.Reports (.create classId values id) (s.perform (.create classId values id)).result
      (s.perform (.create classId values id)).events := by
  simp only [perform, Reply.map, create]
  cases hid : s.documents.contains id with
  | true => exact .taken hid
  | false =>
    cases hdoc : s.newDocument classId values id with
    | error fault => exact .unmade hid hdoc
    | ok made => exact .made hdoc

theorem reports_removal (id : String) :
    s.Reports (.remove id []) (s.perform (.remove id [])).result
      (s.perform (.remove id [])).events := by
  simp only [perform, Reply.map, remove, List.isEmpty_nil, if_true]
  cases hid : s.documents.contains id with
  | true => exact .removed
  | false => exact .absent hid

theorem reports_perform (ha : a.mutation? = some (operation, id)) :
    s.Reports a (s.perform a).result (s.perform a).events := by
  cases a with
  | create classId values id => exact reports_create classId values id
  | update id selector values => exact (Changes.update id selector values).reports
  | push id selector value => exact (Changes.push id selector value).reports
  | remove id selector =>
    cases selector with
    | nil => exact reports_removal id
    | cons first rest => exact (Changes.pull id first rest).reports
  | load docs => cases ha
  | find classId query => cases ha
  | view id classifier => cases ha
  | editView id classifier edits => cases ha
  | cast id mixin edits => cases ha

/-! ## Lines -/

theorem append_three (start a b c : String) : start ++ a ++ b ++ c = start ++ (a ++ b ++ c) := by
  simp only [String.append_assoc]

/-- A line tells how an operation ended by what it starts with. -/
theorem tells_of_line {e : Event} {level : LogLevel} {status start rest : String}
    (particulars : String) (hlevel : e.level = level) (hline : e.line = start ++ rest)
    (hstart : start = "event=document_" ++ operation ++ " module=store status=" ++ status ++ " "
      ++ particulars) : e.Tells level operation status :=
  ⟨hlevel, particulars ++ rest, by rw [hline, hstart, String.append_assoc]⟩

theorem tells_idTaken (id : String) : (Event.idTaken id).Tells .warn "create" "error" :=
  tells_of_line "error_code=already_exists doc_id=" rfl rfl (by decide)

theorem tells_created (id concrete : String) :
    (Event.created id concrete).Tells .debug "create" "ok" :=
  tells_of_line "doc_id=" rfl (append_three _ id " class=" concrete) (by decide)

theorem tells_removed (id : String) : (Event.removed id).Tells .debug "remove" "ok" :=
  tells_of_line "doc_id=" rfl rfl (by decide)

theorem tells_edited (op : Operation) (id : String) :
    (Event.edited op id).Tells .debug op.label "ok" :=
  tells_of_line "doc_id=" rfl rfl (by cases op <;> decide)

theorem tells_editRefused (op : Operation) (id : String) (fault : Fault) :
    (Event.editRefused op id fault).Tells .warn op.label "error" :=
  tells_of_line "doc_id=" rfl (append_three _ id " error=" fault.message) (by cases op <;> decide)

/-! ## Main statement -/

theorem Reports.tells_ok (hr : s.Reports a result events) (ha : a.mutation? = some (operation, id))
    {given : Action.Result} (hok : result = .ok given) :
    ∃ e, events = [e] ∧ e.Tells .debug operation "ok" := by
  cases hr with
  | made _ =>
    cases ha
    exact ⟨_, rfl, tells_created _ _⟩
  | edited hc =>
    rw [hc.mutation?_eq] at ha
    cases ha
    exact ⟨_, rfl, tells_edited _ _⟩
  | removed =>
    cases ha
    exact ⟨_, rfl, tells_removed _⟩
  | taken _ => cases hok
  | unmade _ _ => cases hok
  | missing _ _ => cases hok
  | refused _ _ _ => cases hok
  | absent _ => cases hok

theorem Reports.tells_error (hr : s.Reports a result events)
    (ha : a.mutation? = some (operation, id)) {fault : Fault} (herror : result = .error fault) :
    (s.documents.contains id = true → ∃ e, events = [e] ∧ e.Tells .warn operation "error") ∧
      (s.documents.contains id = false → events = []) := by
  cases hr with
  | taken hid =>
    cases ha
    exact ⟨fun _ => ⟨_, rfl, tells_idTaken _⟩, fun hnone => by simp [hid] at hnone⟩
  | refused hc hid _ =>
    rw [hc.mutation?_eq] at ha
    cases ha
    have hin := Documents.contains_eq_true_iff.2 ⟨_, hid⟩
    exact ⟨fun _ => ⟨_, rfl, tells_editRefused _ _ _⟩, fun hnone => by simp [hin] at hnone⟩
  | unmade hid _ =>
    cases ha
    exact ⟨fun hin => by simp [hid] at hin, fun _ => rfl⟩
  | missing hc hid =>
    rw [hc.mutation?_eq] at ha
    cases ha
    exact ⟨fun hin => by simp [hid] at hin, fun _ => rfl⟩
  | absent hid =>
    cases ha
    exact ⟨fun hin => by simp [hid] at hin, fun _ => rfl⟩
  | made _ => cases herror
  | edited _ => cases herror
  | removed => cases herror

/-- A change that succeeds reports so, once and by nothing else.  One that is refused is reported by
one warning when a document is stored under its id, and not at all otherwise. -/
theorem reports_of_mutation (ha : a.mutation? = some (operation, id)) :
    (∀ given, (s.perform a).result = .ok given →
      ∃ e, (s.perform a).events = [e] ∧ e.Tells .debug operation "ok") ∧
    ∀ fault, (s.perform a).result = .error fault →
      (s.documents.contains id = true →
        ∃ e, (s.perform a).events = [e] ∧ e.Tells .warn operation "error") ∧
      (s.documents.contains id = false → (s.perform a).events = []) :=
  ⟨fun _ hok => (reports_perform ha).tells_ok ha hok,
    fun _ herror => (reports_perform ha).tells_error ha herror⟩

end Engine

/-- A stored task is not given another id, which is reported by one warning. -/
theorem reports_of_update_id :
    ∃ e, (((empty .tasks false).run [.create "Estimate" [("hours", .null)] "t1"]).perform
        (.update "t1" [] [("_id", .string "t2")])).events = [e] ∧
      e.Tells .warn "update" "error" :=
  ((reports_of_mutation rfl).2 (.invalidDocument (.fixedKey "_id")) rfl).1 rfl

/-- A document of a class that is not there is not created, and nothing is reported. -/
theorem unknown_class_unreported :
    Reachable .tasks false (empty .tasks false) ∧
      Action.mutation? (.create "Gone" [] "t1") = some ("create", "t1") ∧
      ((empty .tasks false).perform (.create "Gone" [] "t1")).result = .error (.notFound "Gone") ∧
      ((empty .tasks false).perform (.create "Gone" [] "t1")).events = [] :=
  ⟨.empty, rfl, rfl, rfl⟩

end Store

end TypedDocs
