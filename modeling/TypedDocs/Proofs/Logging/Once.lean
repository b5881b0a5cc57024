import TypedDocs.Logging.Run

/-!
# Logging starts once

Calls that are malformed, or whose directory cannot be made, leave logging as it is; the first one
that can start it does, and none after it changes its settings or makes a directory.

    (l.step c).active = l.active.or c.settings?                                    (active_step)
    (l.run calls).active = l.active.or (calls.findSome? Call.settings?)             (active_run)

How a call ends, with the directories that it tries to make, is in `Ends`.  Making a directory is a
part of the call, so the statements hold whatever it comes to each time.
-/

namespace TypedDocs.Logging

/-- The settings that a call can start logging with: they are well formed, and their directory can
be made. -/
def Call.settings? (c : Call) : Option LogSettings :=
  match LogSettings.parse c.level c.directory with
  | .error _ => none
  | .ok asked =>
    match c.made asked.directory with
    | .error _ => none
    | .ok () => some asked

variable {l : Logging} {c : Call} {o : Outcome} {active asked : LogSettings}

/-! ## One call -/

theorem Call.settings?_eq_some (hp : LogSettings.parse c.level c.directory = .ok asked)
    (hm : c.made asked.directory = .ok ()) : c.settings? = some asked := by
  unfold settings?
  rw [hp]
  dsimp only
  rw [hm]

theorem Call.settings?_eq_none_of_parse {fault : LogFault}
    (hp : LogSettings.parse c.level c.directory = .error fault) : c.settings? = none := by
  unfold settings?
  rw [hp]

theorem Call.settings?_eq_none_of_made {reason : String}
    (hp : LogSettings.parse c.level c.directory = .ok asked)
    (hm : c.made asked.directory = .error reason) : c.settings? = none := by
  unfold settings?
  rw [hp]
  dsimp only
  rw [hm]

/-- How a call ends: its result, the logging after it, and the directories that it tries to make. -/
inductive Ends (l : Logging) (c : Call) : Outcome → Prop where
  | malformed {fault : LogFault} (hp : LogSettings.parse c.level c.directory = .error fault) :
    Ends l c ⟨.error fault, l, []⟩
  | repeated {active asked : LogSettings} (hl : l.active = some active)
    (hp : LogSettings.parse c.level c.directory = .ok asked) (ha : active.agree asked = true) :
    Ends l c ⟨.ok (), l, []⟩
  | refused {active asked : LogSettings} (hl : l.active = some active)
    (hp : LogSettings.parse c.level c.directory = .ok asked) (ha : active.agree asked = false) :
    Ends l c ⟨.error (.alreadyStarted active asked), l, []⟩
  | notMade {asked : LogSettings} {reason : String} (hl : l.active = none)
    (hp : LogSettings.parse c.level c.directory = .ok asked)
    (hm : c.made asked.directory = .error reason) :
    Ends l c ⟨.error (.directoryNotCreated asked.directory reason), l, [asked.directory]⟩
  | started {asked : LogSettings} (hl : l.active = none)
    (hp : LogSettings.parse c.level c.directory = .ok asked)
    (hm : c.made asked.directory = .ok ()) :
    Ends l c ⟨.ok (), ⟨some asked⟩, [asked.directory]⟩

theorem ends_call (l : Logging) (c : Call) : Ends l c (l.call c) := by
  unfold call
  cases hp : LogSettings.parse c.level c.directory with
  | error fault =>
    rw [init_of_parse_error hp]
    exact .malformed hp
  | ok asked =>
    cases hl : l.active with
    | some active =>
      rw [init_of_active hl hp]
      cases ha : active.agree asked with
      | true => exact .repeated hl hp ha
      | false => exact .refused hl hp ha
    | none =>
      rw [init_of_idle hl hp]
      simp only [StateT.run_bind, Call.run_createDirectory]
      cases hm : c.made asked.directory with
      | error reason => exact .notMade hl hp hm
      | ok made => exact .started hl hp hm

example : ((idle.run [⟨"info", "/logs", fun _ => .ok ()⟩]).call
      ⟨"debug", "/logs", fun _ => .ok ()⟩).result =
    .error (.alreadyStarted ⟨.info, "/logs"⟩ ⟨.debug, "/logs"⟩) := rfl

/-- What a call can start logging with becomes active, unless something is. -/
theorem Ends.active_eq (ho : l.Ends c o) : o.logging.active = l.active.or c.settings? := by
  cases ho with
  | malformed hp => rw [Call.settings?_eq_none_of_parse hp, Option.or_none]
  | repeated hl hp ha => rw [hl, Option.some_or]
  | refused hl hp ha => rw [hl, Option.some_or]
  | notMade hl hp hm => rw [Call.settings?_eq_none_of_made hp hm, Option.or_none]
  | started hl hp hm => rw [Call.settings?_eq_some hp hm, hl, Option.none_or]

theorem Ends.ok_iff_of_idle (ho : l.Ends c o) (hl : l.active = none) :
    o.result = .ok () ↔ ∃ s, c.settings? = some s := by
  cases ho with
  | malformed hp => simp [Call.settings?_eq_none_of_parse hp]
  | repeated hactive hp ha => simp [hl] at hactive
  | refused hactive hp ha => simp [hl] at hactive
  | notMade hl hp hm => simp [Call.settings?_eq_none_of_made hp hm]
  | started hl hp hm => simp [Call.settings?_eq_some hp hm]

theorem Ends.ok_iff_of_active (ho : l.Ends c o) (hl : l.active = some active) :
    o.result = .ok () ↔
      ∃ asked, LogSettings.parse c.level c.directory = .ok asked ∧ active.agree asked = true := by
  cases ho with
  | malformed hp => simp [hp]
  | repeated hactive hp ha =>
    rw [hl] at hactive
    cases hactive
    simp [hp, ha]
  | refused hactive hp ha =>
    rw [hl] at hactive
    cases hactive
    simp [hp, ha]
  | notMade hidle hp hm => simp [hl] at hidle
  | started hidle hp hm => simp [hl] at hidle

theorem Ends.attempts_of_active (ho : l.Ends c o) (hl : l.active = some active) :
    o.attempts = [] := by
  cases ho with
  | malformed hp => rfl
  | repeated hactive hp ha => rfl
  | refused hactive hp ha => rfl
  | notMade hidle hp hm => simp [hl] at hidle
  | started hidle hp hm => simp [hl] at hidle

theorem active_step (l : Logging) (c : Call) :
    (l.step c).active = l.active.or c.settings? := by
  unfold step
  exact (ends_call l c).active_eq

/-! ## Several calls -/

theorem active_run (l : Logging) (calls : List Call) :
    (l.run calls).active = l.active.or (calls.findSome? Call.settings?) := by
  -- over any logging at the start, because the first call may already have started it
  induction calls generalizing l with
  | nil => rw [run_nil, List.findSome?_nil, Option.or_none]
  | cons c calls ih =>
    calc (l.run (c :: calls)).active
        = (l.step c).active.or (calls.findSome? Call.settings?) := by rw [run_cons, ih]
      _ = l.active.or (c.settings?.or (calls.findSome? Call.settings?)) := by
        rw [active_step, Option.or_assoc]
      _ = l.active.or ((c :: calls).findSome? Call.settings?) := by
        rw [List.findSome?_cons]
        cases c.settings? <;> rfl

theorem status_of_idle (hl : l.active = none) : l.status = none := by
  rw [status, hl, Option.map_none]

theorem status_of_active (hl : l.active = some active) :
    l.status = some (active.level.label, active.directory) := by
  rw [status, hl, Option.map_some]

/-! ## Main statement -/

/-- Whatever calls a process has made, and whatever making directories comes to: as long as none of
them could start logging there is no status, and the next call gives its own settings to the status
and succeeds when it can start logging, and fails without a status when it cannot.  The settings of
the first call that could start logging stay the status; the next call then tries to make no
directory, and succeeds exactly when it is well formed and asks for the same level and for a
directory with the same parts. -/
theorem starts_once (history : List Call) (next : Call) :
    let before := idle.run history
    let outcome := before.call next
    ((∀ c ∈ history, c.settings? = none) →
      before.status = none ∧
      (∀ s, next.settings? = some s →
        outcome.result = .ok () ∧ outcome.logging.status = some (s.level.label, s.directory)) ∧
      (next.settings? = none →
        (∃ fault, outcome.result = .error fault) ∧ outcome.logging.status = none)) ∧
    ∀ earlier first later s, history = earlier ++ first :: later →
      (∀ c ∈ earlier, c.settings? = none) → first.settings? = some s →
        before.status = some (s.level.label, s.directory) ∧
        outcome.logging.status = some (s.level.label, s.directory) ∧
        outcome.attempts = [] ∧
        (outcome.result = .ok () ↔ ∃ asked,
          LogSettings.parse next.level next.directory = .ok asked ∧ asked.level = s.level ∧
            LogSettings.components asked.directory = LogSettings.components s.directory) := by
  intro before outcome
  have hbefore : before.active = history.findSome? Call.settings? := by
    rw [active_run, idle, Option.none_or]
  have ho : before.Ends next outcome := ends_call before next
  refine ⟨?waiting, ?started⟩
  case waiting =>
    intro hnone
    have hidle : before.active = none := hbefore.trans (List.findSome?_eq_none_iff.2 hnone)
    have hafter : outcome.logging.active = next.settings? := by
      rw [ho.active_eq, hidle, Option.none_or]
    refine ⟨status_of_idle hidle, ?_, ?_⟩
    · intro s hs
      exact ⟨(ho.ok_iff_of_idle hidle).2 ⟨s, hs⟩, status_of_active (hafter.trans hs)⟩
    · intro hs
      refine ⟨?_, status_of_idle (hafter.trans hs)⟩
      cases hr : outcome.result with
      | error fault => exact ⟨fault, rfl⟩
      | ok done =>
        obtain ⟨s, hsome⟩ := (ho.ok_iff_of_idle hidle).1 hr
        rw [hs] at hsome
        cases hsome
  case started =>
    intro earlier first later s hsplit hearlier hfirst
    have hactive : before.active = some s :=
      hbefore.trans (List.findSome?_eq_some_iff.2 ⟨earlier, first, later, hsplit, hfirst, hearlier⟩)
    have hafter : outcome.logging.active = some s := by
      rw [ho.active_eq, hactive, Option.some_or]
    refine ⟨status_of_active hactive, status_of_active hafter, ho.attempts_of_active hactive, ?_⟩
    have hagree : ∀ asked, s.agree asked = true ↔ asked.level = s.level ∧
        LogSettings.components asked.directory = LogSettings.components s.directory :=
      fun asked => LogSettings.agree_eq_true_iff.trans (and_congr eq_comm eq_comm)
    rw [ho.ok_iff_of_active hactive]
    simp only [hagree]

/-- An unknown level and a directory that cannot be made do not count; then logging starts, and the
same settings in other words are accepted where the directory could not be made any more. -/
theorem starts_once_warning :
    let unknown : Call := ⟨"loud", "/logs", fun _ => .ok ()⟩
    let taken : Call := ⟨"info", "/file", fun _ => .error "File exists (os error 17)"⟩
    let first : Call := ⟨" WARNING ", "/logs/", fun _ => .ok ()⟩
    let again : Call := ⟨"warn", "/./logs", fun _ => .error "File exists (os error 17)"⟩
    (idle.run [unknown]).status = none ∧
      (∃ fault, ((idle.run [unknown]).call taken).result = .error fault) ∧
      ((idle.run [unknown, taken]).call first).result = .ok () ∧
      ((idle.run [unknown, taken, first]).call again).result = .ok () ∧
      ((idle.run [unknown, taken, first]).call again).attempts = [] ∧
      ((idle.run [unknown, taken, first]).call again).logging.status = some ("warn", "/logs/") := by
  intro unknown taken first again
  have hunknown : unknown.settings? = none := by decide
  have htaken : taken.settings? = none := by decide
  have hfirst : first.settings? = some ⟨.warn, "/logs/"⟩ := by decide
  have hparse : LogSettings.parse "warn" "/./logs" = .ok ⟨.warn, "/./logs"⟩ := rfl
  have hnone : ∀ c ∈ [unknown], c.settings? = none := by simpa using hunknown
  have hnone' : ∀ c ∈ [unknown, taken], c.settings? = none := by simpa using ⟨hunknown, htaken⟩
  obtain ⟨hempty, -, hfails⟩ := (starts_once [unknown] taken).1 hnone
  obtain ⟨-, hstarts, -⟩ := (starts_once [unknown, taken] first).1 hnone'
  obtain ⟨-, hstays, htries, hagain⟩ := (starts_once [unknown, taken, first] again).2
    [unknown, taken] first [] _ rfl hnone' hfirst
  exact ⟨hempty, (hfails htaken).1, (hstarts _ hfirst).1,
    hagain.2 ⟨⟨.warn, "/./logs"⟩, hparse, rfl, by decide⟩, htries, hstays⟩

end TypedDocs.Logging
