import TypedDocs.Proofs.Query.Naming
import TypedDocs.Proofs.Selector.Faults

/-!
# What the faults of a selector name

A selector that leads nowhere fails by one of its keys, or by comparing a value with one of its
patterns.  Its fault names keys of the selector, classes of the objects on the way, and what the
hierarchy names; a search pattern that is none is one of its patterns'.

    here.Covered o → s.Covered o →
      locateFrom h before here s = .error fault →
        fault.Within h o                                                   (within_of_locateFrom)
-/

namespace TypedDocs

/-! ## Classes of items -/

theorem Value.mem_itemTags {items : List Value} {v : Value} (hv : v ∈ items) {t : String}
    (ht : t ∈ v.tags) : t ∈ itemTags items := by
  induction items with
  | nil => cases hv
  | cons first rest ih =>
    rw [itemTags, List.mem_append]
    rcases List.mem_cons.1 hv with rfl | hv
    · exact .inl ht
    · exact .inr (ih hv)

/-! ## Definitions -/

namespace SelectorStep

/-- The names in a step: those of its key and of its pattern. -/
def names (step : SelectorStep) : List String :=
  Key.parts step.key ++ step.pattern.toList.flatMap (Value.names false)

/-- The step without the payload of its pattern. -/
def redact (step : SelectorStep) : SelectorStep := ⟨step.key, step.pattern.map (Value.redact false)⟩

end SelectorStep

namespace Selector

/-- The names in the steps, and the last key, which is empty when there is no step. -/
def names (s : Selector) : List String := s.lastKey :: s.flatMap SelectorStep.names

/-- The selector without the payload of its patterns. -/
def redact (s : Selector) : Selector := s.map SelectorStep.redact

/-- No step has a pattern. -/
def isPatternless (s : Selector) : Bool := s.all fun step => step.pattern.isNone

variable {ρ : Type} [Pattern.Engine ρ]

/-- A pattern of the selector holds a search pattern that is none. -/
def Searches (s : Selector) (pattern : String) (reason : PatternError) : Prop :=
  ∃ step ∈ s, ∃ p options, step.pattern = some p ∧ p.Searches pattern options ∧
    Pattern.compile pattern options = .error reason

/-- The names of the steps, and their search patterns that are none, are among the sources. -/
def Covered (o : Fault.Sources) (s : Selector) : Prop :=
  ∀ step ∈ s, (∀ n ∈ Key.parts step.key, o.named n) ∧
    ∀ pattern, step.pattern = some pattern → pattern.Covered o

/-- The class of the object and the classes that its parts name are among the sources. -/
structure Position.Covered (o : Fault.Sources) (p : Position) : Prop where
  named : o.named p.classId
  tags : ∀ t ∈ Value.fieldTags p.layout, o.named t

variable {h : Hierarchy} {o : Fault.Sources} {before here : Position} {attr : ResolvedAttribute}
  {step : SelectorStep} {s rest : Selector} {fault : Fault} {l : Location}

/-! ## Redacted names -/

theorem lastKey_redact (s : Selector) : s.redact.lastKey = s.lastKey := by
  rw [lastKey, lastKey, redact, List.getLast?_map, Option.map_map]
  rfl

theorem names_redact (s : Selector) : s.redact.names = s.names := by
  have hstep (step : SelectorStep) : step.redact.names = step.names := by
    cases hp : step.pattern <;>
      simp [SelectorStep.names, SelectorStep.redact, hp, Value.names_redact]
  rw [names, names, lastKey_redact, redact, List.flatMap_map]
  simp only [hstep]

/-! ## The root -/

theorem isPatternless_redact (s : Selector) : s.redact.isPatternless = s.isPatternless := by
  have hstep (step : SelectorStep) : step.redact.pattern.isNone = step.pattern.isNone := by
    cases hp : step.pattern <;> simp [SelectorStep.redact, hp]
  rw [isPatternless, isPatternless, redact, List.all_map]
  exact congrArg s.all (funext hstep)

/-- The selectors without patterns, and no others, lead to the root. -/
theorem isEmpty_target_of_locate {rootClass : String} {root : Layout}
    (hl : s.locate h rootClass root = .ok l) : l.target.isEmpty = s.isPatternless := by
  cases s with
  | nil =>
    cases hl
    rfl
  | cons step rest =>
    obtain ⟨attr, -, ⟨hnone, rfl, rfl⟩ | ⟨pattern, value, path, slot, hpattern, hpick, hend⟩⟩ :=
      locateFrom_cons_eq_ok hl
    · simp [isPatternless, Position.asTarget, hnone]
    · have htarget : l.target ≠ [] := by
        rcases hend with ⟨-, rfl⟩ | ⟨fields, c, -, -, -, hnext⟩
        · exact ne_nil_of_pick hpick
        · exact (below_of_locateFrom (ne_nil_of_pick hpick) hnext).target
      simp [isPatternless, hpattern, List.isEmpty_eq_false_iff.2 htarget]

/-! ## One step -/

theorem covered_of_names (hn : ∀ n ∈ s.names, o.named n)
    (hs : ∀ {pattern reason}, s.Searches pattern reason → o.searched pattern reason) :
    s.Covered o := by
  intro step hstep
  have hin : ∀ n ∈ step.names, o.named n := fun n hmem =>
    hn n (List.mem_cons_of_mem _ (List.mem_flatMap.2 ⟨step, hstep, hmem⟩))
  refine ⟨fun n hmem => hin n (List.mem_append_left _ hmem), fun p hp => ⟨⟨false, ?_⟩, ?_⟩⟩
  · intro n hmem
    exact hin n (List.mem_append_right _ (by simpa [hp] using hmem))
  · intro pattern options reason hsearches hc
    exact hs ⟨step, hstep, p, options, hp, hsearches, hc⟩

/-- A value that a step goes to names classes that the object names. -/
theorem tags_of_pick {key : String} {pattern value : Value} {path : Path} {slot : Slot}
    (hp : pick h here attr key pattern = .ok (value, path, slot)) {t : String}
    (ht : t ∈ value.tags) : t ∈ Value.fieldTags here.layout := by
  obtain ⟨stored, verdict, hstored, -, ⟨-, rfl, -⟩ | ⟨items, i, -, rfl, hi, -⟩⟩ := pick_eq_ok hp
  · exact Value.mem_tags_of_get? hstored ht
  · refine Value.mem_tags_of_get? hstored ?_
    rw [Value.tags]
    exact Value.mem_itemTags (List.mem_of_getElem? hi) ht

/-- The object that a step goes to is covered when the one it starts from is. -/
theorem Position.Covered.next (hh : ∀ n, h.Names n → o.named n) (hc : here.Covered o)
    (hattr : h.resolveKey here.classId step.key = .ok attr) {pattern : Value} {path : Path}
    {slot : Slot} {fields : Layout} {c : String}
    (hp : pick h here attr step.key pattern = .ok (.object fields, path, slot))
    (hclass : h.embeddedClass attr.elementClass fields = some c) :
    Position.Covered o ⟨path, c, fields⟩ := by
  have htags : ∀ t ∈ Value.tags (.object fields), o.named t := fun t ht =>
    hc.tags t (tags_of_pick hp ht)
  rw [Value.tags, List.forall_mem_append] at htags
  refine ⟨?_, htags.2⟩
  rcases Hierarchy.embeddedClass_eq_some hclass with htag | hdeclared
  · exact htags.1 c htag
  · exact hh c (.element (Hierarchy.declares_of_resolveKey hattr hdeclared))

theorem Stops.within (hh : ∀ n, h.Names n → o.named n) (hc : here.Covered o)
    (hk : ∀ n ∈ Key.parts step.key, o.named n)
    (hp : ∀ pattern, step.pattern = some pattern → pattern.Covered o)
    (hs : Stops h here step rest fault) : fault.Within h o := by
  have hkey : o.named step.key := hk _ List.mem_cons_self
  cases hs with
  | key hattr => exact Hierarchy.within_of_resolveKey hc.named hk hattr
  | compared hattr hpattern hvalue hmatch =>
    have hd : ∀ c, ResolvedAttribute.elementClass _ = some c → o.named c := fun c he =>
      hh c (.element (Hierarchy.declares_of_resolveKey hattr he))
    exact Query.within_of_matchValue hh hd
      (fun t ht => hc.tags t (Value.mem_tags_of_get? hvalue ht)) (hp _ hpattern) hmatch
  | patternless _ _ => exact List.forall_mem_singleton.2 hkey
  | bag _ _ => exact List.forall_mem_singleton.2 hkey
  | mismatch => exact List.forall_mem_singleton.2 hkey
  | noObject _ => exact List.forall_mem_singleton.2 hkey

/-! ## All steps -/

theorem within_of_locateFrom (hh : ∀ n, h.Names n → o.named n) (hc : here.Covered o)
    (hs : s.Covered o) (hl : locateFrom h before here s = .error fault) :
    fault.Within h o := by
  induction s generalizing before here with
  | nil => cases hl
  | cons step rest ih =>
    obtain ⟨⟨hkey, hpattern⟩, hrest⟩ := List.forall_mem_cons.1 hs
    rcases locateFrom_cons_eq_error hl with
      hstops | ⟨attr, pattern, path, slot, fields, c, hattr, -, hpick, hclass, hnext⟩
    · exact hstops.within hh hc hkey hpattern
    · exact ih (hc.next hh hattr hpick hclass) hrest hnext

/-- What a selector leads to has a class that is named, and the attribute that its last key denotes
somewhere. -/
theorem named_of_locateFrom (hh : ∀ n, h.Names n → o.named n) (hc : here.Covered o)
    (hl : locateFrom h before here s = .ok l) :
    (∀ c, l.targetClass = some c → o.named c) ∧
      ∀ attr, l.attribute? = some attr → ∃ classId key, h.resolveKey classId key = .ok attr := by
  induction s generalizing before here with
  | nil =>
    cases hl
    exact ⟨fun c he => by cases he; exact hc.named, fun attr he => by cases he⟩
  | cons step rest ih =>
    obtain ⟨attr, hattr, ⟨-, -, rfl⟩ | ⟨pattern, value, path, slot, hpattern, hpick, hcases⟩⟩ :=
      locateFrom_cons_eq_ok hl
    · exact ⟨fun c he => by cases he; exact hc.named,
        fun attr he => by cases he; exact ⟨_, _, hattr⟩⟩
    · rcases hcases with ⟨-, rfl⟩ | ⟨fields, c, -, rfl, hclass, hnext⟩
      · refine ⟨fun c he => ?_, fun attr he => by cases he; exact ⟨_, _, hattr⟩⟩
        cases value with
        | object fields => exact (hc.next hh hattr hpick he).named
        | _ => cases he
      · exact ih (hc.next hh hattr hpick hclass) hnext

end Selector

end TypedDocs
