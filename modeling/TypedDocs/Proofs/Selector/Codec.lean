import TypedDocs.Json.Lemmas
import TypedDocs.Pattern.Basic
import TypedDocs.Proofs.Selector.Faults
import TypedDocs.Proofs.Selector.Prefix
import TypedDocs.Store.Run

/-!
# Selectors that are written and read back

A missing pattern is left out of the node of a step, and a null one is written.  Reading takes both
for a missing one, so that a selector comes back without its null patterns:

    s.Ordered → ofJson? s.toJson = some s.reread                                   (ofJson?_toJson)

It leads where the selector leads unless the walk comes to a step with a null pattern and the key of
this step has an attribute there.  Then the two never give the same (`locateFrom_reread_iff`): the
step that is read back names the attribute or asks for a pattern, and a null pattern, which no
object matches, goes to a value or fails.
-/

namespace TypedDocs

/-! ## Definitions -/

/-- The step without its pattern if that is null. -/
def SelectorStep.reread (step : SelectorStep) : SelectorStep :=
  { step with pattern := step.pattern.filter fun p => !p.isNull }

namespace Selector

variable {ρ : Type} [Pattern.Engine ρ]

/-- The selector without the patterns that are null. -/
def reread (s : Selector) : Selector := s.map SelectorStep.reread

/-- The walk comes to a step with a null pattern, and its key has an attribute there. -/
def MeetsNull (h : Hierarchy) (before here : Position) (s : Selector) : Prop :=
  ∃ steps key rest attr prior there, s = steps ++ ⟨key, some .null⟩ :: rest ∧
    Walks h before here steps prior there ∧ h.resolveKey there.classId key = .ok attr

end Selector

/-! ## Writing and reading -/

namespace SelectorStep

variable {step : SelectorStep}

theorem reread_of_null (hp : step.pattern = some .null) : step.reread = ⟨step.key, none⟩ := by
  rw [reread, hp]
  rfl

theorem reread_of_ne_null (hp : step.pattern ≠ some .null) : step.reread = step := by
  obtain ⟨key, pattern⟩ := step
  cases pattern with
  | none => rfl
  | some p =>
    cases p with
    | null => exact absurd rfl hp
    | _ => rfl

theorem reread_eq_self_iff : step.reread = step ↔ step.pattern ≠ some .null := by
  constructor
  · intro he hp
    rw [reread_of_null hp] at he
    rw [← he] at hp
    cases hp
  · exact reread_of_ne_null

theorem patternOfJson?_toJson {pattern : Option Value} (hp : ∀ p ∈ pattern, p.Ordered) :
    patternOfJson? (pattern.map Value.toJson) = some (pattern.filter fun p => !p.isNull) := by
  cases pattern with
  | none => rfl
  | some p =>
    have hread : Value.ofJson? p.toJson = some p := Value.ofJson?_toJson p (hp p rfl)
    cases p with
    | null => rfl
    | _ => exact congrArg (Option.map some) hread

theorem ofJson?_toJson (hs : ∀ p ∈ step.pattern, p.Ordered) :
    ofJson? step.toJson = some step.reread := by
  have hfields : Json.record? ["key", "pattern"] step.toJson =
      some [some (.string step.key), step.pattern.map Value.toJson] := by
    rw [toJson]
    cases step.pattern <;> rfl
  rw [ofJson?, hfields]
  simp only [patternOfJson?_toJson hs]
  rfl

end SelectorStep

namespace Selector

section Engine

variable {ρ : Type} [Pattern.Engine ρ]
variable {h : Hierarchy} {before here next there : Position} {step : SelectorStep}
  {s rest rest' : Selector} {attr : ResolvedAttribute} {slot : Slot} {value : Value}

theorem ofJson?_toJson (hs : s.Ordered) : ofJson? s.toJson = some s.reread := by
  show (s.map SelectorStep.toJson).mapM SelectorStep.ofJson? = _
  induction s with
  | nil => rfl
  | cons step rest ih =>
    obtain ⟨hstep, hrest⟩ := List.forall_mem_cons.1 hs
    rw [List.map_cons, List.mapM_cons, SelectorStep.ofJson?_toJson hstep, ih hrest]
    rfl

theorem reread_eq_self_iff : s.reread = s ↔ ∀ step ∈ s, step.pattern ≠ some .null := by
  induction s with
  | nil => simp [reread]
  | cons step rest ih =>
    rw [List.forall_mem_cons, ← ih, ← SelectorStep.reread_eq_self_iff]
    exact List.cons_eq_cons

/-! ## Null patterns on the way -/

/-- No object matches null. -/
theorem Hop.ne_object_of_null (hop : Hop h here step attr slot value)
    (hnull : step.pattern = some .null) (fields : Layout) : value ≠ .object fields := by
  rintro rfl
  have hmiss : ¬Query.Matches h false attr.elementClass (.object fields) .null := by
    rintro ⟨v, hv, hhit⟩
    rw [Query.matchValue_object_other (by simp)] at hv
    cases hv
    cases hhit
  cases hop with
  | whole _ hpattern _ _ hmatch =>
    rw [hnull] at hpattern
    cases hpattern
    exact hmiss hmatch
  | item _ hpattern _ _ hfirst =>
    rw [hnull] at hpattern
    cases hpattern
    exact hmiss hfirst.matched

theorem Advances.ne_null (ha : Advances h here step attr slot next) :
    step.pattern ≠ some .null := fun hnull =>
  (ha.hop.1.ne_object_of_null hnull next.layout) rfl

/-- A step leads from an object to one other at most. -/
theorem Advances.unique {attr' : ResolvedAttribute} {slot' : Slot} {next' : Position}
    (ha : Advances h here step attr slot next) (ha' : Advances h here step attr' slot' next') :
    next' = next := by
  have hattr := ha'.resolved
  rw [ha.resolved] at hattr
  cases hattr
  obtain ⟨pattern, hpattern, hpick⟩ := ha.picked
  obtain ⟨pattern', hpattern', hpick'⟩ := ha'.picked
  rw [hpattern] at hpattern'
  cases hpattern'
  rw [hpick] at hpick'
  obtain ⟨path, classId, layout⟩ := next
  obtain ⟨path', classId', layout'⟩ := next'
  have hclass := ha.classed
  have hclass' := ha'.classed
  cases hpick'
  rw [hclass] at hclass'
  cases hclass'
  rfl

/-- A step that leads to no object ends the walk, whatever comes after it. -/
theorem locateFrom_cons_congr (hne : rest ≠ []) (hne' : rest' ≠ [])
    (hstop : ∀ attr slot next, ¬Advances h here step attr slot next) :
    locateFrom h before here (step :: rest) = locateFrom h before here (step :: rest') := by
  cases hattr : h.resolveKey here.classId step.key with
  | error fault => rw [locateFrom, locateFrom, hattr, error_bind, error_bind]
  | ok attr =>
    cases hpattern : step.pattern with
    | none => simp [locateFrom, hattr, hpattern, hne, hne']
    | some pattern =>
      by_cases hbag : ∃ element, attr.type = .bagOf element
      · obtain ⟨element, helement⟩ := hbag
        rw [locateFrom_cons_of_bag hattr hpattern helement,
          locateFrom_cons_of_bag hattr hpattern helement]
      · have hplain : ∀ element, attr.type ≠ .bagOf element := fun e he => hbag ⟨e, he⟩
        rw [locateFrom_cons_of_pattern hattr hpattern hplain,
          locateFrom_cons_of_pattern hattr hpattern hplain]
        cases hpick : pick h here attr step.key pattern with
        | error fault => rfl
        | ok picked =>
          obtain ⟨value, path, slot⟩ := picked
          simp only [ok_bind, goOn, List.isEmpty_iff, hne, hne', if_false]
          split
          · next fields c hclass =>
            exact absurd ⟨hattr, hplain, ⟨pattern, hpattern, hpick⟩, hclass⟩
              (hstop attr slot ⟨path, c, fields⟩)
          · rfl

/-! ## Coming to a null pattern -/

theorem not_meetsNull_nil : ¬MeetsNull h before here [] := by
  rintro ⟨steps, key, rest, attr, prior, there, he, -⟩
  cases steps <;> cases he

theorem meetsNull_cons_iff_of_null (hnull : step.pattern = some .null) :
    MeetsNull h before here (step :: rest) ↔
      ∃ attr, h.resolveKey here.classId step.key = .ok attr := by
  constructor
  · rintro ⟨steps, key, after, attr, prior, there, he, walk, hattr⟩
    cases walk with
    | nil =>
      cases he
      exact ⟨attr, hattr⟩
    | cons first walk =>
      cases he
      exact absurd hnull first.ne_null
  · rintro ⟨attr, hattr⟩
    refine ⟨[], step.key, rest, attr, before, here, ?_, .nil, hattr⟩
    obtain ⟨key, pattern⟩ := step
    cases hnull
    rfl

theorem meetsNull_cons_iff (hne : step.pattern ≠ some .null) :
    MeetsNull h before here (step :: rest) ↔
      ∃ attr slot next, Advances h here step attr slot next ∧ MeetsNull h here next rest := by
  constructor
  · rintro ⟨steps, key, after, attr, prior, there, he, walk, hattr⟩
    cases walk with
    | nil =>
      cases he
      exact absurd rfl hne
    | @cons _ _ next _ _ _ steps attr' slot first walk =>
      cases he
      exact ⟨attr', slot, next, first, steps, key, after, attr, prior, there, rfl, walk, hattr⟩
  · rintro ⟨attr, slot, next, first, steps, key, after, attr', prior, there, rfl, walk, hattr⟩
    exact ⟨step :: steps, key, after, attr', prior, there, rfl, .cons first walk, hattr⟩

/-! ## Where the selector that is read back leads -/

/-- A missing pattern and a null one that is compared never give the same. -/
theorem locateFrom_null_ne {key : String} (hattr : h.resolveKey here.classId key = .ok attr) :
    locateFrom h before here (⟨key, none⟩ :: reread rest) ≠
      locateFrom h before here (⟨key, some .null⟩ :: rest) := by
  intro he
  cases rest with
  | nil =>
    have hl : locateFrom h before here [⟨key, some .null⟩] =
        .ok (here.asTarget before (some attr)) := by
      rw [← he, locateFrom, hattr]
      rfl
    -- What the null pattern goes to has a slot.
    obtain ⟨attr', -, ⟨hnone, -, -⟩ | ⟨pattern, v, path, slot, -, -, ⟨-, hend⟩ | hend⟩⟩ :=
      locateFrom_cons_eq_ok hl
    · cases hnone
    · cases congrArg Location.slot hend
    · obtain ⟨fields, c, hrest, -⟩ := hend
      exact absurd rfl hrest
  | cons second rest =>
    have hl : locateFrom h before here (⟨key, some .null⟩ :: second :: rest) =
        .error (.patternRequired key) := by
      rw [← he, locateFrom, hattr]
      rfl
    rcases locateFrom_cons_eq_error hl with
      hstop | ⟨attr', pattern, path, slot, fields, c, hattr', hpattern, hpick, -, -⟩
    · cases hstop with
      | key hfault =>
        rw [hattr] at hfault
        cases hfault
      | patternless hnone hne => cases hnone
      | compared hattr' hpattern hvalue hmatch => cases Query.obstructs_of_matchValue hmatch
    · obtain ⟨hop, -⟩ := hop_of_pick hattr' hpattern hpick
      exact hop.ne_object_of_null rfl fields rfl

/-- The selector that is read back gives what the selector gives, unless the walk comes to a null
pattern. -/
theorem locateFrom_reread_iff :
    locateFrom h before here s.reread = locateFrom h before here s ↔
      ¬MeetsNull h before here s := by
  induction s generalizing before here with
  | nil => exact iff_of_true rfl not_meetsNull_nil
  | cons step rest ih =>
    by_cases hnull : step.pattern = some .null
    · have hreread : reread (step :: rest) = ⟨step.key, none⟩ :: reread rest :=
        congrArg (· :: reread rest) (SelectorStep.reread_of_null hnull)
      rw [hreread, meetsNull_cons_iff_of_null hnull]
      obtain ⟨key, pattern⟩ := step
      obtain rfl : pattern = some .null := hnull
      cases hattr : h.resolveKey here.classId key with
      | error fault =>
        refine iff_of_true ?_ (by simp)
        rw [locateFrom, locateFrom, hattr, error_bind, error_bind]
      | ok attr => exact iff_of_false (locateFrom_null_ne hattr) (by simp)
    · have hreread : reread (step :: rest) = step :: reread rest :=
        congrArg (· :: reread rest) (SelectorStep.reread_of_ne_null hnull)
      rw [hreread, meetsNull_cons_iff hnull]
      by_cases hrest : rest = []
      · subst hrest
        refine iff_of_true rfl ?_
        rintro ⟨attr, slot, next, -, hmeets⟩
        exact not_meetsNull_nil hmeets
      · have hrest' : reread rest ≠ [] := by simpa [reread] using hrest
        by_cases hgo : ∃ attr slot next, Advances h here step attr slot next
        · obtain ⟨attr, slot, next, first⟩ := hgo
          rw [first.locateFrom_cons hrest', first.locateFrom_cons hrest, ih]
          refine not_congr ⟨fun hmeets => ⟨attr, slot, next, first, hmeets⟩, ?_⟩
          rintro ⟨attr', slot', next', first', hmeets⟩
          rwa [first.unique first'] at hmeets
        · have hstop : ∀ attr slot next, ¬Advances h here step attr slot next :=
            fun attr slot next first => hgo ⟨attr, slot, next, first⟩
          refine iff_of_true (locateFrom_cons_congr hrest' hrest hstop) ?_
          rintro ⟨attr, slot, next, first, -⟩
          exact hgo ⟨attr, slot, next, first⟩

/-! ## Main statement -/

/-- A selector is read back without its null patterns, so as it is when it has none; and it leads,
in whatever root and for whatever class, where the selector leads, unless the walk comes to a step
with a null pattern whose key has an attribute there. -/
theorem written_and_read (hs : s.Ordered) :
    ∃ back, ofJson? s.toJson = some back ∧
      (back = s ↔ ∀ step ∈ s, step.pattern ≠ some .null) ∧
      ∀ h rootClass root, back.locate h rootClass root = s.locate h rootClass root ↔
        ¬MeetsNull h (.root rootClass root) (.root rootClass root) s :=
  ⟨s.reread, ofJson?_toJson hs, reread_eq_self_iff, fun _ _ _ => locateFrom_reread_iff⟩

end Engine

/-- A selector without null patterns comes back, and leads where it led. -/
theorem written_and_read_subtask :
    ∃ back, ofJson? (toJson [⟨"tasks", some (.object [("name", .null)])⟩, ⟨"name", none⟩]) =
        some back ∧
      back = [⟨"tasks", some (.object [("name", .null)])⟩, ⟨"name", none⟩] := by
  obtain ⟨back, hread, hsame, -⟩ := written_and_read
    (s := [⟨"tasks", some (.object [("name", .null)])⟩, ⟨"name", none⟩]) (by decide)
  exact ⟨back, hread, hsame.2 (by simp)⟩

/-- A null pattern is lost: the selector that picks a name which is null comes back as one that
names the attribute, and leads elsewhere. -/
theorem null_pattern_lost :
    ofJson? (toJson [⟨"name", some .null⟩]) = some [⟨"name", none⟩] ∧
      locate .tasks "Task" [("name", .null)] [⟨"name", none⟩] ≠
        locate .tasks "Task" [("name", .null)] [⟨"name", some .null⟩] := by
  let start : Position := .root "Task" [("name", .null)]
  obtain ⟨attr, hattr⟩ : ∃ attr, Hierarchy.tasks.resolveKey start.classId "name" = .ok attr :=
    ⟨_, rfl⟩
  have hne : locateFrom .tasks start start (⟨"name", none⟩ :: reread []) ≠
      locateFrom .tasks start start [⟨"name", some .null⟩] := locateFrom_null_ne hattr
  exact ⟨rfl, hne⟩

end Selector

end TypedDocs
