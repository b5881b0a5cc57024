import TypedDocs.Pattern.Basic
import TypedDocs.Proofs.Edit.Naming
import TypedDocs.Proofs.Store.Creation
import TypedDocs.Proofs.Store.Reports

/-!
# Reports without payload

What a change reports is a function of the call without its payload and of how it ends
(`Reports.events_eq`), and where it is refused, the fault names what the call without its payload,
the hierarchy and the stored document name.  So two calls that differ in their payload only, and
that succeed or are refused for faults of one kind with the same names, report the same, but for
two kinds of faults that say more than that.  That of a search pattern that is none quotes it, which
is payload; that of an attribute that does not have the type asked for says which is asked for, and
the payload decides in which object of the document, of what class, the selector ends.

    a.redact = b.redact → (s.perform a).EndsAlike (s.perform b) →
      (s.perform a).events = (s.perform b).events  or both are refused for a search pattern of their
      selectors or for the type of one attribute                                (reports_of_redact)
-/

namespace TypedDocs

/-! ## Definitions -/

/-- The operations both succeed, or both are refused for faults that are alike. -/
def Reply.EndsAlike {α : Type} (r r' : Reply α) : Prop :=
  match r.result, r'.result with
  | .ok _, .ok _ => True
  | .error fault, .error fault' => fault.Alike fault'
  | _, _ => False

namespace Action

/-- The call without the payload of its values, of the value that it pushes and of its patterns. -/
def redact : Action → Action
  | .create classId values id => .create classId (Value.redactFields values) id
  | .update id selector values => .update id selector.redact (Value.redactFields values)
  | .push id selector value => .push id selector.redact (value.redact false)
  | .remove id selector => .remove id selector.redact
  | a => a

/-- The names in a call that is to change one document. -/
def names : Action → List String
  | .create classId values id => id :: classId :: Value.fieldNames values
  | .update id selector values => id :: (selector.names ++ Value.fieldNames values)
  | .push id selector value => id :: (selector.names ++ value.names false)
  | .remove id selector => id :: selector.names
  | _ => []

/-- The selector of a call. -/
def selector : Action → Selector
  | .update _ selector _ | .push _ selector _ | .remove _ selector => selector
  | _ => []

end Action

namespace Store

/-- The names of a call, those of the hierarchy, and the classes in the document that the call is
for. -/
inductive Names (s : Store) (a : Action) : String → Prop where
  | given {n : String} (hn : n ∈ a.names) : Names s a n
  | hierarchy {n : String} (hn : s.hierarchy.Names n) : Names s a n
  | stored {operation id n : String} {doc : Document} (ha : a.mutation? = some (operation, id))
    (hid : s.documents.get? id = some doc)
    (hn : n = Document.className doc ∨ n ∈ Value.fieldTags doc) : Names s a n

/-- What is wrong with the identity in the values of an update of a stored document, which depends
on whether the selector leads to its root. -/
inductive Flaws (s : Store) : Action → DocumentFlaw → Prop where
  | identity {id : String} {selector : Selector} {values : Layout} {doc : Document} {target : Path}
    {flaw : DocumentFlaw} (hid : s.documents.get? id = some doc)
    (ht : target.isEmpty = selector.isPatternless)
    (hi : Edit.checkIdentity s.hierarchy (Document.className doc) target values =
      .error (.invalidDocument flaw)) : Flaws s (.update id selector values) flaw

variable {ρ : Type} [Pattern.Engine ρ]

/-- What the fault of a change of a stored document in place may say. -/
def sources (s : Store) (a : Action) : Fault.Sources := ⟨s.Names a, a.selector.Searches, s.Flaws a⟩

/-- What an edit of a stored document reports when it ends so. -/
def reportEdit (s : Store) (op : Operation) (id : String) : Except Fault Unit → List Event
  | .ok _ => [.edited op id]
  | .error fault => if s.documents.contains id then [.editRefused op id fault] else []

/-- What a call that is to change one document reports when it ends so. -/
def report (s : Store) (ending : Except Fault Unit) : Action → List Event
  | .create classId _ id =>
    match ending, s.hierarchy.concreteClass classId with
    | .ok _, .ok concrete => [.created id concrete]
    | .ok _, .error _ => []
    | .error _, _ => if s.documents.contains id then [.idTaken id] else []
  | .update id _ _ => s.reportEdit .update id ending
  | .push id _ _ => s.reportEdit .push id ending
  | .remove id [] =>
    match ending with
    | .ok _ => [.removed id]
    | .error _ => []
  | .remove id (_ :: _) => s.reportEdit .pull id ending
  | _ => []

end Store

/-! ## Calls without payload -/

namespace Action

theorem names_redact (a : Action) : a.redact.names = a.names := by
  cases a <;>
    simp only [redact, names, Value.fieldNames_redact, Selector.names_redact, Value.names_redact]

theorem mutation?_redact (a : Action) : a.redact.mutation? = a.mutation? := by
  cases a with
  | remove id selector => cases selector <;> rfl
  | _ => rfl

end Action

namespace Store

section Engine

variable {ρ : Type} [Pattern.Engine ρ]
variable {s : Store} {a b : Action} {operation id : String} {fault : Fault}
  {result result' : Except Fault Action.Result} {events events' : List Event}

theorem names_redact_iff {n : String} : s.Names a.redact n ↔ s.Names a n := by
  constructor
  · rintro (hn | hn | ⟨ha, hid, hn⟩)
    · exact .given (a.names_redact ▸ hn)
    · exact .hierarchy hn
    · exact .stored (a.mutation?_redact ▸ ha) hid hn
  · rintro (hn | hn | ⟨ha, hid, hn⟩)
    · exact .given (a.names_redact.symm ▸ hn)
    · exact .hierarchy hn
    · exact .stored (a.mutation?_redact.symm ▸ ha) hid hn

theorem report_redact (s : Store) (ending : Except Fault Unit) (a : Action) :
    s.report ending a.redact = s.report ending a := by
  cases a with
  | remove id selector => cases selector <;> rfl
  | _ => rfl

/-- Updates that differ in their payload only have the same flaw. -/
theorem Flaws.eq_of_redact {flaw flaw' : DocumentFlaw} (hab : a.redact = b.redact)
    (hf : s.Flaws a flaw) (hf' : s.Flaws b flaw') : flaw = flaw' := by
  cases hf with
  | @identity id selector values doc target _ hid ht hi =>
    cases hf' with
    | @identity id' selector' values' doc' target' _ hid' ht' hi' =>
      simp only [Action.redact, Action.update.injEq] at hab
      obtain ⟨rfl, hselector, hvalues⟩ := hab
      obtain rfl : doc = doc' := Option.some.inj (hid.symm.trans hid')
      have hplace : target.isEmpty = target'.isEmpty := by
        rw [ht, ht', ← selector.isPatternless_redact, hselector, selector'.isPatternless_redact]
      have hsame := calc
        Edit.checkIdentity s.hierarchy (Document.className doc) target values
        _ = Edit.checkIdentity s.hierarchy (Document.className doc) target'
              (Value.redactFields values) := (Edit.checkIdentity_redact hplace).symm
        _ = Edit.checkIdentity s.hierarchy (Document.className doc) target'
              (Value.redactFields values') := by rw [hvalues]
        _ = Edit.checkIdentity s.hierarchy (Document.className doc) target' values' :=
          Edit.checkIdentity_redact rfl
      rw [hi, hi'] at hsame
      cases hsame
      rfl

/-! ## Reports -/

theorem Changes.report_eq {op : Operation} {change : Document → Editing Unit}
    (hc : s.Changes a op id change) (ending : Except Fault Unit) :
    s.report ending a = s.reportEdit op id ending := by
  cases hc <;> rfl

/-- What is reported depends on the call without its values and on how it ends. -/
theorem Reports.events_eq (hr : s.Reports a result events) :
    events = s.report (result.map fun _ => ()) a := by
  cases hr with
  | taken hid => simp [report, Except.map, hid]
  | unmade hid _ => simp [report, Except.map, hid]
  | made hdoc => simp [report, Except.map, (newDocument_eq_ok hdoc).1]
  | missing hc hid => simp [hc.report_eq, reportEdit, Except.map, hid]
  | refused hc hid _ =>
    have hin := Documents.contains_eq_true_iff.2 ⟨_, hid⟩
    simp [hc.report_eq, reportEdit, Except.map, hin]
  | edited hc => simp [hc.report_eq, reportEdit, Except.map]
  | absent _ => rfl
  | removed => rfl

/-- Calls that differ in their payload only report the same if how they end makes no difference. -/
theorem Reports.events_congr (hr : s.Reports a result events) (hr' : s.Reports b result' events')
    (hab : a.redact = b.redact)
    (he : s.report (result.map fun _ => ()) a = s.report (result'.map fun _ => ()) a) :
    events = events' := by
  calc events
    _ = s.report (result.map fun _ => ()) a := hr.events_eq
    _ = s.report (result'.map fun _ => ()) a.redact := by rw [he, report_redact]
    _ = s.report (result'.map fun _ => ()) b.redact := by rw [hab]
    _ = events' := by rw [report_redact, ← hr'.events_eq]

/-! ## Faults of a call -/

theorem named_of_validate {Named : String → Prop} {doc : Document}
    (hv : Document.validate doc = .error fault) : ∀ n ∈ fault.names, Named n := by
  unfold Document.validate Document.flaw? at hv
  split at hv
  · next flaw hflaw =>
    cases hv
    split at hflaw
    · cases hflaw
    · cases hflaw
    all_goals
      cases hflaw
      exact List.forall_mem_nil _
  · cases hv

/-- The mixins of a new document are those of its values, or the one that it is created for. -/
theorem named_of_mixins {Named : String → Prop} {classId concrete : String} {values : Layout}
    {doc : Document} {mixins : Value} (hc : Named classId)
    (hv : ∀ n ∈ Value.fieldNames values, Named n)
    (ha : Assignment.assign s.hierarchy s.strict classId
      (blankDocument s.hierarchy classId concrete id) values = .ok doc)
    (hm : doc.get? Document.mixinsKey = some mixins) : ∀ n ∈ mixins.names true, Named n := by
  have htag : Document.tag? (blankDocument s.hierarchy classId concrete id) = some concrete :=
    Document.tag?_eq_some_iff.2 get?_blankDocument_classKey
  rw [Assignment.assign, Assignment.withTag_of_tag? htag] at ha
  rcases Assignment.mem_of_get?_assignEntries Document.isInternal_mixinsKey (by decide) ha hm with
    hblank | hgiven
  · cases hmixin : s.hierarchy.isMixin classId with
    | true =>
      rw [get?_blankDocument_mixinsKey hmixin] at hblank
      cases hblank
      simpa [Value.names, Value.itemNames] using hc
    | false =>
      rw [blankDocument, hmixin] at hblank
      cases hblank
  · intro n hn
    refine hv n (Value.mem_fieldNames_iff.2 ⟨_, hgiven, .inr ?_⟩)
    rwa [Document.isInternal_mixinsKey]

/-- A document is not created because of a class, a key, or the identity that the values have. -/
theorem named_of_newDocument {Named : String → Prop} {classId : String} {values : Layout}
    (hh : ∀ n, s.hierarchy.Names n → Named n) (hnamed : Named classId) (hid : Named id)
    (hv : ∀ n ∈ Value.fieldNames values, Named n)
    (hd : s.newDocument classId values id = .error fault) : ∀ n ∈ fault.names, Named n := by
  unfold newDocument at hd
  rcases Query.bind_eq_error hd with hb | ⟨concrete, hb, hd⟩
  · exact (Hierarchy.within_of_concreteClass (o := .ofNames Named) hnamed hb).named
  obtain ⟨c, hfind, -⟩ := Hierarchy.find?_concreteClass hb
  have hconcrete : Named concrete := by
    obtain rfl := Hierarchy.id_of_find? hfind
    exact hh _ (.classifier (Hierarchy.mem_toList_iff.2 hfind))
  split at hd
  · next ha =>
    cases hd
    exact (Assignment.within_of_assign (o := .ofNames Named) hh hnamed hv ha).named
  · next doc ha =>
    have hc : checkNew s.hierarchy concrete id doc = .error fault := by
      rcases Query.bind_eq_error hd with hc | ⟨_, -, hd⟩
      · exact hc
      · cases hd
    unfold checkNew at hc
    rcases Query.bind_eq_error hc with hvalid | ⟨_, -, hc⟩
    · exact named_of_validate hvalid
    by_cases hsame : Document.id doc = id
    · by_cases hclass : Document.className doc = concrete
      · cases hm : doc.get? Document.mixinsKey with
        | none => simp [hsame, hclass, hm] at hc
        | some mixins =>
          simp only [hsame, hclass, hm, ne_eq, not_true_eq_false, if_false] at hc
          exact (Hierarchy.within_of_checkMixins (o := .ofNames Named) hconcrete
            (named_of_mixins hnamed hv ha hm) (fun _ _ => trivial) hc).named
      · simp only [hsame, hclass, ne_eq, not_true_eq_false, not_false_eq_true, if_false, if_true,
          throw_eq_error, error_bind] at hc
        cases hc
        exact List.forall_mem_singleton.2 hconcrete
    · simp only [hsame, ne_eq, not_false_eq_true, if_true, throw_eq_error, error_bind] at hc
      cases hc
      exact List.forall_mem_singleton.2 hid

/-- The root of the document that a call is for. -/
theorem covered_root {doc : Document} (ha : a.mutation? = some (operation, id))
    (hid : s.documents.get? id = some doc) :
    Selector.Position.Covered (s.sources a) (.root (Document.className doc) doc) where
  named := .stored ha hid (.inl rfl)
  tags _ ht := .stored ha hid (.inr ht)

theorem Changes.mem_names {op : Operation} {change : Document → Editing Unit}
    (hc : s.Changes a op id change) : id ∈ a.names := by
  cases hc <;> exact List.mem_cons_self

/-- A change in place is refused by names, by a search pattern of its selector, or by the identity
in its values. -/
theorem Changes.within {op : Operation} {change : Document → Editing Unit} {doc left : Document}
    (hc : s.Changes a op id change) (hid : s.documents.get? id = some doc)
    (he : change doc doc = .error fault left) : fault.Within s.hierarchy (s.sources a) := by
  have hh : ∀ n, s.hierarchy.Names n → (s.sources a).named n := fun n hn => .hierarchy hn
  have hroot := covered_root hc.mutation?_eq hid
  cases hc with
  | update _ selector values =>
    have hselector : ∀ n ∈ selector.names, s.Names (.update id selector values) n := fun n hn =>
      .given (List.mem_cons_of_mem _ (List.mem_append_left _ hn))
    have hvalues : ∀ n ∈ Value.fieldNames values, s.Names (.update id selector values) n :=
      fun n hn => .given (List.mem_cons_of_mem _ (List.mem_append_right _ hn))
    refine Edit.failsBy_set hh hroot (Selector.covered_of_names hselector fun hs => hs)
      (hselector _ List.mem_cons_self) hvalues (fun l flaw hl hi => ?_) fault left he
    have htarget := Selector.isEmpty_target_of_locate (Edit.locate_of_locateObject hl)
    exact .identity hid htarget hi
  | push _ selector value =>
    have hselector : ∀ n ∈ selector.names, s.Names (.push id selector value) n := fun n hn =>
      .given (List.mem_cons_of_mem _ (List.mem_append_left _ hn))
    have hvalue : ∀ n ∈ value.names false, s.Names (.push id selector value) n := fun n hn =>
      .given (List.mem_cons_of_mem _ (List.mem_append_right _ hn))
    exact Edit.failsBy_push hh hroot (Selector.covered_of_names hselector fun hs => hs)
      (hselector _ List.mem_cons_self) hvalue fault left he
  | pull _ first rest =>
    have hselector : ∀ n ∈ Selector.names (first :: rest),
        s.Names (.remove id (first :: rest)) n := fun n hn => .given (List.mem_cons_of_mem _ hn)
    exact Edit.failsBy_pull hh hroot (Selector.covered_of_names hselector fun hs => hs)
      (hselector _ List.mem_cons_self) fault left he

/-- What a refused call reports is the same for any fault, or it is refused as a change in place. -/
theorem Reports.error_cases (hr : s.Reports a (.error fault) events) :
    (∀ fault', s.report (.error fault') a = s.report (.error fault) a) ∨
      fault.Within s.hierarchy (s.sources a) := by
  cases hr with
  | taken hid => exact .inl fun _ => by simp only [report, hid]
  | unmade hid hdoc => exact .inl fun _ => by simp only [report, hid]
  | missing hc hid => exact .inl fun _ => by simp [hc.report_eq, reportEdit, hid]
  | refused hc hid he => exact .inr (hc.within hid he)
  | absent hid => exact .inl fun _ => rfl

theorem Reports.named (hr : s.Reports a (.error fault) events) :
    ∀ n ∈ fault.names, s.Names a n := by
  cases hr with
  | taken hid => exact List.forall_mem_singleton.2 (.given List.mem_cons_self)
  | unmade hid hdoc =>
    refine named_of_newDocument (fun n hn => .hierarchy hn) (.given ?_) (.given ?_)
      (fun n hn => .given ?_) hdoc
    · exact List.mem_cons_of_mem _ List.mem_cons_self
    · exact List.mem_cons_self
    · exact List.mem_cons_of_mem _ (List.mem_cons_of_mem _ hn)
  | missing hc hid => exact List.forall_mem_singleton.2 (.given hc.mem_names)
  | refused hc hid he => exact (hc.within hid he).named
  | absent hid => exact List.forall_mem_singleton.2 (.given List.mem_cons_self)

/-! ## Main statement -/

/-- Two calls that differ in their payload only and end alike report the same, unless both are
refused for search patterns of their selectors that are none, which differ or are refused for
different reasons, or for the type of an attribute, of which they ask for different things.  The
fault of such a call names ids, classifiers and keys of the call without its payload, of the
hierarchy and of the stored document. -/
theorem reports_of_redact (ha : a.mutation? = some (operation, id)) (hab : a.redact = b.redact)
    (ho : (s.perform a).EndsAlike (s.perform b)) :
    ((s.perform a).events = (s.perform b).events ∨
      (∃ p reason p' reason', (p, reason) ≠ (p', reason') ∧
        (s.perform a).result = .error (.invalidPattern p reason) ∧
        (s.perform b).result = .error (.invalidPattern p' reason') ∧
        a.selector.Searches p reason ∧ b.selector.Searches p' reason') ∨
      ∃ name e e', e ≠ e' ∧ (s.perform a).result = .error (.wrongType name e) ∧
        (s.perform b).result = .error (.wrongType name e')) ∧
    ∀ fault, (s.perform a).result = .error fault → ∀ n ∈ fault.names, s.Names a.redact n := by
  have hb : b.mutation? = some (operation, id) := by
    rw [← b.mutation?_redact, ← hab, a.mutation?_redact, ha]
  have hreports := reports_perform (s := s) ha
  have hreports' := reports_perform (s := s) hb
  constructor
  · unfold Reply.EndsAlike at ho
    split at ho
    · next hr hr' =>
      rw [hr] at hreports
      rw [hr'] at hreports'
      exact .inl (hreports.events_congr hreports' hab rfl)
    · next fault fault' hr hr' =>
      rw [hr] at hreports
      rw [hr'] at hreports'
      rcases hreports.error_cases with hany | hf
      · exact .inl (hreports.events_congr hreports' hab (hany fault').symm)
      rcases hreports'.error_cases with hany | hf'
      · exact .inl (hreports'.events_congr hreports hab.symm (hany fault).symm).symm
      have hflaws (flaw flaw' : DocumentFlaw) (hflaw : s.Flaws a flaw) (hflaw' : s.Flaws b flaw') :
          flaw = flaw' := hflaw.eq_of_redact hab hflaw'
      rcases ho.cases hf hf' hflaws with
        rfl | ⟨p, reason, p', reason', rfl, rfl⟩ | ⟨name, e, e', he, rfl, rfl⟩
      · exact .inl (hreports.events_congr hreports' hab rfl)
      · by_cases hsame : (p, reason) = (p', reason')
        · cases hsame
          exact .inl (hreports.events_congr hreports' hab rfl)
        · exact .inr (.inl ⟨p, reason, p', reason', hsame, hr, hr', hf, hf'⟩)
      · exact .inr (.inr ⟨name, e, e', he, hr, hr'⟩)
    · exact ho.elim
  · intro fault hr n hn
    rw [hr] at hreports
    exact names_redact_iff.2 (hreports.named n hn)

end Engine

/-- A task is refused an attribute that it does not have, whatever its name is to be. -/
theorem reports_of_redact_rate :
    let made := (empty .tasks false).run [.create "Estimate" [("hours", .null)] "t1"]
    (made.perform (.update "t1" [] [("name", .string "x"), ("rate", .string "1")])).events =
        (made.perform (.update "t1" [] [("name", .string "y"), ("rate", .string "2")])).events ∧
      made.Names (.update "t1" [] [("name", .null), ("rate", .null)]) "rate" := by
  intro made
  have hfault : (made.perform
      (.update "t1" [] [("name", .string "x"), ("rate", .string "1")])).result =
        .error (.attributeNotFound "Task" "rate") := rfl
  have hfault' : (made.perform
      (.update "t1" [] [("name", .string "y"), ("rate", .string "2")])).result =
        .error (.attributeNotFound "Task" "rate") := rfl
  obtain ⟨hevents, hnames⟩ := reports_of_redact (s := made)
    (a := .update "t1" [] [("name", .string "x"), ("rate", .string "1")])
    (b := .update "t1" [] [("name", .string "y"), ("rate", .string "2")]) rfl rfl
    (by rw [Reply.EndsAlike, hfault, hfault']; exact ⟨rfl, rfl⟩)
  refine ⟨hevents.resolve_right ?_, hnames _ hfault "rate" (by simp [Fault.names])⟩
  rintro (⟨p, reason, p', reason', -, hr, -⟩ | ⟨name, e, e', -, hr, -⟩)
  · rw [hfault] at hr
    cases hr
  · rw [hfault] at hr
    cases hr

/-- A store with one task, which has a name. -/
def namedTask : Store := (empty .tasks false).run [.create "Task" [("name", .string "a")] "t1"]

/-- An edit of the task if its name matches a search pattern with options. -/
def editNamed (options : String) : Action :=
  .update "t1" [⟨"name", some (.object [("$options", .string options), ("$regex", .string "a")])⟩]
    []

/-- Options that are refused are the fault of the edit. -/
theorem result_editNamed {options : String} {reason : PatternError}
    (hc : Pattern.compile "a" options = .error reason) :
    (namedTask.perform (editNamed options)).result = .error (.invalidPattern "a" reason) := by
  let doc : Document := [("_class", .string "Task"), ("_id", .string "t1"), ("name", .string "a")]
  let wanted : Layout := [("$options", .string options), ("$regex", .string "a")]
  have hmatch : Query.matchValue .tasks false none (.string "a") (.object wanted) =
      .error (.invalidPattern "a" reason) := by
    have hasked : Query.pattern? wanted = some ("a", options) := rfl
    rw [Query.matchValue_leaf_object (by simp) (by simp), hasked, Option.elim_some,
      Query.testPattern, hc]
    rfl
  have hlocate : Selector.locate .tasks "Task" doc [⟨"name", some (.object wanted)⟩] =
      .error (.invalidPattern "a" reason) := by
    obtain ⟨attr, hattr, hwire, htype⟩ : ∃ attr,
        Hierarchy.tasks.resolveKey "Task" "name" = .ok attr ∧ attr.wire = "name" ∧
          attr.type = .string := ⟨_, rfl, rfl, rfl⟩
    have hstored : doc.get? attr.wire = some (.string "a") := by
      rw [hwire]
      rfl
    have hnone : attr.elementClass = none := by
      rw [ResolvedAttribute.elementClass, htype]
      rfl
    rw [Selector.locate, Selector.locateFrom_cons_of_pattern hattr rfl (by simp [htype]),
      Selector.pick]
    simp only [hstored, hnone, hmatch]
    rfl
  have hset : Edit.set .tasks false "Task" [⟨"name", some (.object wanted)⟩] [] doc =
      .error (.invalidPattern "a" reason) doc := by
    rw [Edit.set, Editing.bind_apply, Edit.reading_apply, Edit.locateObject, hlocate]
    rfl
  have hchange := Changes.update (s := namedTask) "t1" [⟨"name", some (.object wanted)⟩] []
  have hdoc : namedTask.documents.get? "t1" = some doc := rfl
  have hclass : Document.className doc = "Task" := rfl
  rw [editNamed, hchange.perform_eq, edit]
  simp only [hdoc, hclass]
  rw [show namedTask.hierarchy = .tasks from rfl, show namedTask.strict = false from rfl, hset]
  rfl

/-- A warning quotes an option of a search pattern that is refused, which is payload. -/
theorem option_reported :
    Reachable .tasks false namedTask ∧ (editNamed "q").redact = (editNamed "z").redact ∧
      (namedTask.perform (editNamed "q")).EndsAlike (namedTask.perform (editNamed "z")) ∧
      (namedTask.perform (editNamed "q")).events.map Event.line =
        ["event=document_update module=store status=error doc_id=t1 error=invalid $regex `a`: " ++
          "unsupported option `q`"] ∧
      (namedTask.perform (editNamed "z")).events.map Event.line =
        ["event=document_update module=store status=error doc_id=t1 error=invalid $regex `a`: " ++
          "unsupported option `z`"] := by
  have hreach : Reachable .tasks false namedTask := by
    refine ReachableBy.empty.step ?_
    rw [Action.Ordered, Layout.ordered_iff]
    exact ⟨by decide, by simp [Value.Ordered]⟩
  have hq : (namedTask.perform (editNamed "q")).result =
      .error (.invalidPattern "a" (.unsupportedOption 'q')) := result_editNamed rfl
  have hz : (namedTask.perform (editNamed "z")).result =
      .error (.invalidPattern "a" (.unsupportedOption 'z')) := result_editNamed rfl
  have hevents (options : String) {fault : Fault}
      (hr : (namedTask.perform (editNamed options)).result = .error fault) :
      (namedTask.perform (editNamed options)).events = [.editRefused .update "t1" fault] := by
    have hreports := reports_perform (s := namedTask) (a := editNamed options) rfl
    rw [hreports.events_eq, hr]
    rfl
  refine ⟨hreach, rfl, ?_, ?_, ?_⟩
  · rw [Reply.EndsAlike, hq, hz]
    exact ⟨rfl, rfl⟩
  · rw [hevents "q" hq]
    decide
  · rw [hevents "z" hz]
    decide

end Store

end TypedDocs
