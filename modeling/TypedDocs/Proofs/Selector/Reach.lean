import TypedDocs.Selector.Location
import TypedDocs.Proofs.Hierarchy.Resolution

/-!
# How far a selector reaches

A selector goes from object to object through attributes, and no attribute is stored under an
internal key.  So what it leads to lies below no internal key of the root:

    s.locate h rootClass root = .ok l → l.Outside                            (outside_of_locate)

The root itself can be the target, of a selector without patterns (`locate_cases`).
-/

namespace TypedDocs

/-! ## Definitions -/

/-- The path enters the root through no internal key. -/
def Path.Outside (path : Path) : Prop :=
  ∀ key rest, path = .field key :: rest → Key.isInternal key = false

/-- Neither the paths nor the key of a location name an internal key of the root or of the object
that is reached. -/
structure Location.Outside (l : Location) : Prop where
  target : Path.Outside l.target
  parent : Path.Outside l.parent
  attr : ∀ attr ∈ l.attribute?, Key.isInternal attr.wire = false
  slot : ∀ slot ∈ l.slot, Key.isInternal slot.key = false

/-- What is reached, and the object that it stands in if it has a slot there, lie below the root. -/
structure Location.Below (l : Location) : Prop where
  target : l.target ≠ []
  parent : l.slot.isSome = true → l.parent ≠ []

/-! ## Lemmas -/

theorem Path.outside_nil : Path.Outside [] := by
  intro key rest he
  cases he

theorem Path.Outside.append {path : Path} (hp : path.Outside) {key : String}
    (hk : Key.isInternal key = false) (rest : Path) :
    Path.Outside (path ++ .field key :: rest) := by
  intro k r he
  cases path with
  | nil =>
    cases he
    exact hk
  | cons step tail =>
    cases he
    exact hp k tail rfl

namespace Selector

variable {ρ : Type} [Pattern.Engine ρ]
variable {h : Hierarchy}

/-- A step with a pattern goes to the value of its attribute, or to an item of it. -/
theorem pick_eq_ok {p : Position} {attr : ResolvedAttribute} {key : String} {pattern v : Value}
    {path : Path} {slot : Slot} (hp : pick h p attr key pattern = .ok (v, path, slot)) :
    ∃ value verdict, p.layout.get? attr.wire = some value ∧
      Query.matchValue h false attr.elementClass value pattern = .ok verdict ∧
      ((verdict = .hit ∧ v = value ∧ path = p.path ++ [.field attr.wire] ∧
          slot = ⟨attr.wire, none⟩) ∨
        ∃ items i, verdict = .hitAt i ∧ value = .array items ∧ items[i]? = some v ∧
          path = p.path ++ [.field attr.wire, .index i] ∧ slot = ⟨attr.wire, some i⟩) := by
  rw [pick] at hp
  cases hv : p.layout.get? attr.wire with
  | none =>
    rw [hv] at hp
    cases hp
  | some value =>
    simp only [hv] at hp
    obtain ⟨verdict, hm, hp⟩ := bind_eq_ok_iff.1 hp
    refine ⟨value, verdict, rfl, hm, ?_⟩
    cases verdict with
    | miss => cases hp
    | hit =>
      cases hp
      exact .inl ⟨rfl, rfl, rfl, rfl⟩
    | hitAt i =>
      cases value with
      | array items =>
        cases hi : items[i]? with
        | none =>
          simp only [hi] at hp
          cases hp
        | some item =>
          simp only [hi] at hp
          cases hp
          exact .inr ⟨items, i, rfl, rfl, hi, by simp, rfl⟩
      | _ => cases hp

theorem outside_of_pick {p : Position} {attr : ResolvedAttribute} {key : String}
    {pattern v : Value} {path : Path} {slot : Slot} (hpath : p.path.Outside)
    (hattr : Key.isInternal attr.wire = false)
    (hp : pick h p attr key pattern = .ok (v, path, slot)) :
    path.Outside ∧ Key.isInternal slot.key = false := by
  obtain ⟨value, verdict, -, -, ⟨-, -, rfl, rfl⟩ | ⟨items, i, -, -, -, rfl, rfl⟩⟩ := pick_eq_ok hp
  · exact ⟨hpath.append hattr [], hattr⟩
  · exact ⟨hpath.append hattr [.index i], hattr⟩

/-- What following a first step gives: the object reached, what the step goes to, or what the other
steps lead to from there. -/
theorem locateFrom_cons_eq_ok {before here : Position} {step : SelectorStep} {rest : Selector}
    {l : Location} (hl : locateFrom h before here (step :: rest) = .ok l) :
    ∃ attr, h.resolveKey here.classId step.key = .ok attr ∧
      ((step.pattern = none ∧ rest = [] ∧ l = here.asTarget before (some attr)) ∨
        ∃ pattern v path slot, step.pattern = some pattern ∧
          pick h here attr step.key pattern = .ok (v, path, slot) ∧
          ((rest = [] ∧ l = ⟨path, classOfValue h attr v, here.path, here.classId, some attr,
              some slot⟩) ∨
            ∃ fields c, rest ≠ [] ∧ v = .object fields ∧ classOfValue h attr v = some c ∧
              locateFrom h here ⟨path, c, fields⟩ rest = .ok l)) := by
  rw [locateFrom] at hl
  obtain ⟨attr, hattr, hl⟩ := bind_eq_ok_iff.1 hl
  refine ⟨attr, hattr, ?_⟩
  cases hpat : step.pattern with
  | none =>
    simp only [hpat] at hl
    split at hl
    · next hrest =>
      cases hl
      exact .inl ⟨rfl, List.isEmpty_iff.1 hrest, rfl⟩
    · cases hl
  | some pattern =>
    simp only [hpat] at hl
    split at hl
    · cases hl
    · obtain ⟨⟨v, path, slot⟩, hpick, hl⟩ := bind_eq_ok_iff.1 hl
      refine .inr ⟨pattern, v, path, slot, rfl, hpick, ?_⟩
      split at hl
      · next hrest =>
        cases hl
        exact .inl ⟨List.isEmpty_iff.1 hrest, rfl⟩
      · next hrest =>
        split at hl
        · next fields c hv hc =>
          have hne : rest ≠ [] := fun he => hrest (List.isEmpty_iff.2 he)
          exact .inr ⟨fields, c, hne, hv, hc, hl⟩
        · cases hl

/-! ## Outside the internal keys -/

/-- A location that is the object reached has no slot. -/
theorem outside_asTarget {before here : Position} (hb : before.path.Outside)
    (hh : here.path.Outside) {attr : Option ResolvedAttribute}
    (ha : ∀ a ∈ attr, Key.isInternal a.wire = false) : (here.asTarget before attr).Outside where
  target := hh
  parent := hb
  attr := ha
  slot := by
    intro slot hs
    cases hs

theorem outside_of_locateFrom {before here : Position} (hb : before.path.Outside)
    (hh : here.path.Outside) {s : Selector} {l : Location}
    (hl : locateFrom h before here s = .ok l) : l.Outside := by
  induction s generalizing before here with
  | nil =>
    cases hl
    exact outside_asTarget hb hh fun a ha => by cases ha
  | cons step rest ih =>
    obtain ⟨attr, hattr, ⟨-, -, rfl⟩ | ⟨pattern, v, path, slot, -, hpick, hend⟩⟩ :=
      locateFrom_cons_eq_ok hl
    · refine outside_asTarget hb hh fun a ha => ?_
      cases ha
      exact Hierarchy.isInternal_wire_of_resolveKey hattr
    · have hwire := Hierarchy.isInternal_wire_of_resolveKey hattr
      obtain ⟨hpath, hslot⟩ := outside_of_pick hh hwire hpick
      rcases hend with ⟨-, rfl⟩ | ⟨fields, c, -, -, -, hrest⟩
      · refine ⟨hpath, hh, fun a ha => ?_, fun sl hsl => ?_⟩
        · cases ha
          exact hwire
        · cases hsl
          exact hslot
      · exact ih hh hpath hrest

theorem outside_of_locate {rootClass : String} {root : Layout} {s : Selector} {l : Location}
    (hl : s.locate h rootClass root = .ok l) : l.Outside :=
  outside_of_locateFrom Path.outside_nil Path.outside_nil hl

/-! ## Below the root -/

theorem ne_nil_of_pick {p : Position} {attr : ResolvedAttribute} {key : String}
    {pattern v : Value} {path : Path} {slot : Slot}
    (hp : pick h p attr key pattern = .ok (v, path, slot)) : path ≠ [] := by
  obtain ⟨value, verdict, -, -, ⟨-, -, rfl, -⟩ | ⟨items, i, -, -, -, rfl, -⟩⟩ := pick_eq_ok hp
  · simp
  · simp

/-- From an object below the root a selector does not come back to it. -/
theorem below_of_locateFrom {before here : Position} (hh : here.path ≠ []) {s : Selector}
    {l : Location} (hl : locateFrom h before here s = .ok l) : l.Below := by
  induction s generalizing before here with
  | nil =>
    cases hl
    exact ⟨hh, by simp [Position.asTarget]⟩
  | cons step rest ih =>
    obtain ⟨attr, -, ⟨-, -, rfl⟩ | ⟨pattern, v, path, slot, -, hpick, hend⟩⟩ :=
      locateFrom_cons_eq_ok hl
    · exact ⟨hh, by simp [Position.asTarget]⟩
    · rcases hend with ⟨-, rfl⟩ | ⟨fields, c, -, -, -, hrest⟩
      · exact ⟨ne_nil_of_pick hpick, fun _ => hh⟩
      · exact ih (ne_nil_of_pick hpick) hrest

/-- A selector stays at the root, goes to the value of one attribute of it, or ends below. -/
theorem locate_cases {rootClass : String} {root : Layout} {s : Selector} {l : Location}
    (hl : s.locate h rootClass root = .ok l) :
    (l.target = [] ∧ l.targetClass = some rootClass ∧ l.slot = none ∧
        ((s = [] ∧ l.attribute? = none) ∨ ∃ step attr, s = [step] ∧ step.pattern = none ∧
          l.attribute? = some attr ∧ h.resolveKey rootClass step.key = .ok attr)) ∨
      (l.target ≠ [] ∧ ∃ step attr, s = [step] ∧ l.attribute? = some attr ∧
        h.resolveKey rootClass step.key = .ok attr) ∨ l.Below := by
  cases s with
  | nil =>
    cases hl
    exact .inl ⟨rfl, rfl, rfl, .inl ⟨rfl, rfl⟩⟩
  | cons step rest =>
    obtain ⟨attr, hattr, ⟨hpat, rfl, rfl⟩ | ⟨pattern, v, path, slot, -, hpick, hend⟩⟩ :=
      locateFrom_cons_eq_ok hl
    · exact .inl ⟨rfl, rfl, rfl, .inr ⟨step, attr, rfl, hpat, rfl, hattr⟩⟩
    · rcases hend with ⟨rfl, rfl⟩ | ⟨fields, c, -, -, -, hrest⟩
      · exact .inr (.inl ⟨ne_nil_of_pick hpick, step, attr, rfl, rfl, hattr⟩)
      · exact .inr (.inr (below_of_locateFrom (ne_nil_of_pick hpick) hrest))

end Selector

end TypedDocs
