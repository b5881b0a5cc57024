import TypedDocs.Proofs.Query.Undeclared
import TypedDocs.Proofs.Selector.Reach

/-!
# Why a selector leads nowhere

A step fails by its key, which has no attribute or one of bags; by its pattern, which matches
nothing or cannot be compared; or, when it is not the last one, because it has no pattern or goes to
no object of a class.

    locateFrom h before here (step :: rest) = .error fault → Stops h here step rest fault ∨
      the steps after it fail at the object that it goes to            (locateFrom_cons_eq_error)
-/

namespace TypedDocs.Selector

variable {ρ : Type} [Pattern.Engine ρ]

/-! ## Definitions -/

/-- A step fails at an object, whatever the steps after it do. -/
inductive Stops (h : Hierarchy) (here : Position) (step : SelectorStep) (rest : Selector) :
    Fault → Prop where
  | key {fault : Fault} (hattr : h.resolveKey here.classId step.key = .error fault) :
    Stops h here step rest fault
  | patternless (hpattern : step.pattern = none) (hne : rest ≠ []) :
    Stops h here step rest (.patternRequired step.key)
  | bag {attr : ResolvedAttribute} {element : AttributeType}
    (hattr : h.resolveKey here.classId step.key = .ok attr) (hbag : attr.type = .bagOf element) :
    Stops h here step rest (.wrongType step.key .arrayOrEmbeddedObject)
  | mismatch : Stops h here step rest (.selectorMismatch step.key)
  | compared {attr : ResolvedAttribute} {pattern value : Value} {fault : Fault}
    (hattr : h.resolveKey here.classId step.key = .ok attr)
    (hpattern : step.pattern = some pattern) (hvalue : here.layout.get? attr.wire = some value)
    (hmatch : Query.matchValue h false attr.elementClass value pattern = .error fault) :
    Stops h here step rest fault
  | noObject (hne : rest ≠ []) : Stops h here step rest (.wrongType step.key .embeddedObject)

variable {h : Hierarchy} {before here : Position} {step : SelectorStep} {rest : Selector}
  {attr : ResolvedAttribute} {pattern : Value} {fault : Fault} {key : String}

/-! ## A step with a pattern -/

/-- What becomes of the value that a step with a pattern goes to. -/
def goOn (h : Hierarchy) (here : Position) (step : SelectorStep) (attr : ResolvedAttribute)
    (rest : Selector) (picked : Value × Path × Slot) : Except Fault Location :=
  if rest.isEmpty then
    .ok
      { target := picked.2.1
        targetClass := classOfValue h attr picked.1
        parent := here.path
        parentClass := here.classId
        attribute? := some attr
        slot := some picked.2.2 }
  else
    match picked.1, classOfValue h attr picked.1 with
    | .object fields, some c => locateFrom h here ⟨picked.2.1, c, fields⟩ rest
    | _, _ => .error (.wrongType step.key .embeddedObject)

theorem locateFrom_cons_of_bag {element : AttributeType}
    (hattr : h.resolveKey here.classId step.key = .ok attr) (hpattern : step.pattern = some pattern)
    (hbag : attr.type = .bagOf element) :
    locateFrom h before here (step :: rest) =
      .error (.wrongType step.key .arrayOrEmbeddedObject) := by
  rw [locateFrom, hattr, ok_bind, hpattern]
  simp [hbag]

theorem locateFrom_cons_of_pattern (hattr : h.resolveKey here.classId step.key = .ok attr)
    (hpattern : step.pattern = some pattern) (hbag : ∀ element, attr.type ≠ .bagOf element) :
    locateFrom h before here (step :: rest) =
      pick h here attr step.key pattern >>= goOn h here step attr rest := by
  rw [locateFrom, hattr, ok_bind, hpattern]
  simp only [Bool.false_eq_true, if_false]
  rfl

theorem pick_eq_error (hp : pick h here attr key pattern = .error fault) :
    fault = .selectorMismatch key ∨ ∃ value, here.layout.get? attr.wire = some value ∧
      Query.matchValue h false attr.elementClass value pattern = .error fault := by
  rw [pick] at hp
  cases hv : here.layout.get? attr.wire with
  | none =>
    rw [hv] at hp
    cases hp
    exact .inl rfl
  | some value =>
    simp only [hv] at hp
    rcases Query.bind_eq_error hp with hm | ⟨verdict, -, hp⟩
    · exact .inr ⟨value, rfl, hm⟩
    · left
      cases verdict with
      | miss =>
        cases hp
        rfl
      | hit => cases hp
      | hitAt i =>
        cases value with
        | array items =>
          simp only at hp
          split at hp
          · cases hp
          · cases hp
            rfl
        | _ =>
          cases hp
          rfl

/-! ## All steps -/

/-- A selector fails by its first step, or by the steps after it where this one goes to. -/
theorem locateFrom_cons_eq_error (hl : locateFrom h before here (step :: rest) = .error fault) :
    Stops h here step rest fault ∨
      ∃ attr pattern path slot fields c, h.resolveKey here.classId step.key = .ok attr ∧
        step.pattern = some pattern ∧
        pick h here attr step.key pattern = .ok (.object fields, path, slot) ∧
        h.embeddedClass attr.elementClass fields = some c ∧
        locateFrom h here ⟨path, c, fields⟩ rest = .error fault := by
  cases hattr : h.resolveKey here.classId step.key with
  | error reason =>
    rw [locateFrom, hattr] at hl
    cases hl
    exact .inl (.key hattr)
  | ok attr =>
    cases hpattern : step.pattern with
    | none =>
      rw [locateFrom, hattr, ok_bind, hpattern] at hl
      simp only at hl
      split at hl
      · cases hl
      · next hrest =>
        cases hl
        exact .inl (.patternless hpattern (by simpa using hrest))
    | some pattern =>
      by_cases hbag : ∃ element, attr.type = .bagOf element
      · obtain ⟨element, helement⟩ := hbag
        rw [locateFrom_cons_of_bag hattr hpattern helement] at hl
        cases hl
        exact .inl (.bag hattr helement)
      · rw [locateFrom_cons_of_pattern hattr hpattern fun element he => hbag ⟨element, he⟩] at hl
        rcases Query.bind_eq_error hl with hpick | ⟨⟨value, path, slot⟩, hpick, hgo⟩
        · rcases pick_eq_error hpick with rfl | ⟨value, hvalue, hm⟩
          · exact .inl .mismatch
          · exact .inl (.compared hattr hpattern hvalue hm)
        · unfold goOn at hgo
          split at hgo
          · cases hgo
          · next hrest =>
            simp only at hgo
            split at hgo
            · next fields c hclass =>
              exact .inr ⟨attr, pattern, path, slot, fields, c, rfl, rfl, hpick, hclass, hgo⟩
            · cases hgo
              exact .inl (.noObject (by simpa using hrest))

end TypedDocs.Selector
