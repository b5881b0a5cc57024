import TypedDocs.Proofs.Selector.Trail

/-!
# The beginning of a selector

The steps before the last one walk from object to object, and what comes after them goes on from the
object that they reach.  Where they lead to the same place in another root, and the objects on the
way name the same classes there, they walk to an object of the same class (`Walks.exists_walks`).

    Walks h before here steps prior there → rest ≠ [] →
      locateFrom h before here (steps ++ rest) = locateFrom h prior there rest
                                                                          (Walks.locateFrom_append)
    rest ≠ [] → locateFrom h before here (steps ++ rest) = .ok l →
      ∃ prior there, Walks h before here steps prior there                    (walks_of_locateFrom)
-/

namespace TypedDocs

/-! ## Definitions -/

/-- The path does not begin with a place in an array. -/
def Path.EntersField (path : Path) : Prop := ∀ i rest, path ≠ .index i :: rest

namespace Selector

variable {ρ : Type} [Pattern.Engine ρ]

/-- A step with a pattern has led from an object to another one. -/
structure Advances (h : Hierarchy) (here : Position) (step : SelectorStep)
    (attr : ResolvedAttribute) (slot : Slot) (next : Position) : Prop where
  resolved : h.resolveKey here.classId step.key = .ok attr
  notBag : ∀ element, attr.type ≠ .bagOf element
  picked : ∃ pattern, step.pattern = some pattern ∧
    pick h here attr step.key pattern = .ok (.object next.layout, next.path, slot)
  classed : h.embeddedClass attr.elementClass next.layout = some next.classId

/-- Steps have led from an object to another one, and from `prior` to this at last. -/
inductive Walks (h : Hierarchy) : Position → Position → Selector → Position → Position → Prop where
  | nil {before here : Position} : Walks h before here [] before here
  | cons {before here next prior there : Position} {step : SelectorStep} {rest : Selector}
    {attr : ResolvedAttribute} {slot : Slot} (first : Advances h here step attr slot next)
    (walk : Walks h here next rest prior there) : Walks h before here (step :: rest) prior there

/-- Steps lead to the same place in two roots. -/
def SameTarget (h : Hierarchy) (rootClass : String) (steps : Selector) (root root' : Layout) :
    Prop :=
  ∃ l l', steps.locate h rootClass root = .ok l ∧ steps.locate h rootClass root' = .ok l' ∧
    l'.target = l.target

end Selector

/-! ## Slots on a path -/

theorem Path.entersField_nil : Path.EntersField [] := by
  intro i rest he
  cases he

theorem Slot.entersField (slot : Slot) (rest : Path) : Path.EntersField (slot.path ++ rest) := by
  intro i tail he
  cases he

/-- A slot is read off a path that goes on from it with a field, if it goes on. -/
theorem Slot.path_inj {slot slot' : Slot} {rest rest' : Path} (hr : rest.EntersField)
    (hr' : rest'.EntersField) (he : slot.path ++ rest = slot'.path ++ rest') : slot = slot' := by
  obtain ⟨key, index⟩ := slot
  obtain ⟨key', index'⟩ := slot'
  have hcons : PathStep.field key = .field key' ∧
      index.toList.map PathStep.index ++ rest = index'.toList.map PathStep.index ++ rest' :=
    List.cons.inj he
  obtain ⟨hkey, htail⟩ := hcons
  cases hkey
  cases index with
  | none =>
    cases index' with
    | none => rfl
    | some j => exact absurd htail (hr j rest')
  | some i =>
    cases index' with
    | none => exact absurd htail.symm (hr' i rest)
    | some j =>
      cases htail
      rfl

namespace Selector

variable {ρ : Type} [Pattern.Engine ρ]
variable {h : Hierarchy} {before before' here here' next prior there : Position}
  {steps rest s : Selector} {step : SelectorStep} {l : Location} {root root' fields last : Layout}
  {attr : ResolvedAttribute} {pattern value : Value} {path : Path} {slot : Slot}
  {rootClass : String}

/-! ## One step -/

theorem Advances.hop (ha : Advances h here step attr slot next) :
    Hop h here step attr slot (.object next.layout) ∧ next.path = here.path ++ slot.path := by
  obtain ⟨pattern, hpattern, hpick⟩ := ha.picked
  exact hop_of_pick ha.resolved hpattern hpick

theorem Advances.in_root (ha : Advances h here step attr slot next) (hin : here.In root) :
    next.In root := by
  obtain ⟨hop, hpath⟩ := ha.hop
  rw [Position.In, hpath]
  exact Layout.at?_eq_some_iff.2 (hop.at?_path hin)

/-- A step with a pattern is taken for no attribute of bags. -/
theorem notBag_of_locateFrom (hattr : h.resolveKey here.classId step.key = .ok attr)
    (hpattern : step.pattern = some pattern)
    (hl : locateFrom h before here (step :: rest) = .ok l) (element : AttributeType) :
    attr.type ≠ .bagOf element := by
  intro hbag
  rw [locateFrom, hattr, ok_bind, hpattern] at hl
  simp [hbag] at hl

/-- A last step with a pattern ends at what it goes to. -/
theorem locateFrom_last (hattr : h.resolveKey here.classId step.key = .ok attr)
    (hpattern : step.pattern = some pattern) (hbag : ∀ element, attr.type ≠ .bagOf element)
    (hpick : pick h here attr step.key pattern = .ok (value, path, slot)) :
    locateFrom h before here [step] = .ok
      { target := path
        targetClass := classOfValue h attr value
        parent := here.path
        parentClass := here.classId
        attribute? := some attr
        slot := some slot } := by
  rw [locateFrom, hattr, ok_bind, hpattern]
  simp [hpick]

theorem Advances.locateFrom_cons (ha : Advances h here step attr slot next) (hne : rest ≠ []) :
    locateFrom h before here (step :: rest) = locateFrom h here next rest := by
  obtain ⟨pattern, hpattern, hpick⟩ := ha.picked
  have hbag := ha.notBag
  have hclass : classOfValue h attr (.object next.layout) = some next.classId := ha.classed
  rw [locateFrom, ha.resolved, ok_bind, hpattern]
  simp [hpick, hclass, hne]

/-! ## Going on from a walk -/

theorem Walks.locateFrom_append (walk : Walks h before here steps prior there) (hne : rest ≠ []) :
    locateFrom h before here (steps ++ rest) = locateFrom h prior there rest := by
  induction walk with
  | nil => rfl
  | @cons before here next prior there step tail attr slot first walk ih =>
    have hne' : tail ++ rest ≠ [] := List.append_ne_nil_of_right_ne_nil tail hne
    rw [List.cons_append, first.locateFrom_cons hne', ih]

theorem walks_of_locateFrom (hne : rest ≠ [])
    (hl : locateFrom h before here (steps ++ rest) = .ok l) :
    ∃ prior there, Walks h before here steps prior there := by
  induction steps generalizing before here with
  | nil => exact ⟨before, here, .nil⟩
  | cons step tail ih =>
    have hne' : tail ++ rest ≠ [] := List.append_ne_nil_of_right_ne_nil tail hne
    rw [List.cons_append] at hl
    obtain ⟨attr, hattr, ⟨-, he, -⟩ | ⟨pattern, v, path, slot, hpattern, hpick, hend⟩⟩ :=
      locateFrom_cons_eq_ok hl
    · exact absurd he hne'
    · have hbag := notBag_of_locateFrom hattr hpattern hl
      rcases hend with ⟨he, -⟩ | ⟨fields, c, -, rfl, hclass, hl'⟩
      · exact absurd he hne'
      · obtain ⟨prior, there, walk⟩ := ih hl'
        have first : Advances h here step attr slot ⟨path, c, fields⟩ :=
          ⟨hattr, hbag, ⟨pattern, hpattern, hpick⟩, hclass⟩
        exact ⟨prior, there, .cons first walk⟩

/-! ## The way that was walked -/

theorem Walks.in_root (walk : Walks h before here steps prior there) (hin : here.In root) :
    there.In root := by
  induction walk with
  | nil => exact hin
  | cons first _ ih => exact ih (first.in_root hin)

/-- A walk leaves every position by a field. -/
theorem Walks.exists_path (walk : Walks h before here steps prior there) :
    ∃ rest : Path, there.path = here.path ++ rest ∧ rest.EntersField := by
  induction walk with
  | @nil before here => exact ⟨[], (List.append_nil here.path).symm, Path.entersField_nil⟩
  | @cons before here next prior there step tail attr slot first walk ih =>
    obtain ⟨rest, hrest, -⟩ := ih
    obtain ⟨-, hnext⟩ := first.hop
    refine ⟨slot.path ++ rest, ?_, slot.entersField rest⟩
    rw [hrest, hnext, List.append_assoc]

theorem exists_target_path (hl : locateFrom h before here s = .ok l) :
    ∃ rest : Path, l.target = here.path ++ rest ∧ rest.EntersField := by
  induction s generalizing before here with
  | nil =>
    cases hl
    exact ⟨[], (List.append_nil here.path).symm, Path.entersField_nil⟩
  | cons step tail ih =>
    obtain ⟨attr, hattr, ⟨-, -, rfl⟩ | ⟨pattern, v, path, slot, hpattern, hpick, hend⟩⟩ :=
      locateFrom_cons_eq_ok hl
    · exact ⟨[], (List.append_nil here.path).symm, Path.entersField_nil⟩
    · obtain ⟨-, rfl⟩ := hop_of_pick hattr hpattern hpick
      rcases hend with ⟨-, rfl⟩ | ⟨fields, c, -, -, -, hl'⟩
      · have hpath : Path.EntersField slot.path := by simpa using slot.entersField []
        exact ⟨slot.path, rfl, hpath⟩
      · obtain ⟨rest, hrest, -⟩ := ih hl'
        refine ⟨slot.path ++ rest, ?_, slot.entersField rest⟩
        rw [hrest, List.append_assoc]

/-- Steps that walk to an object lead there as a selector of their own. -/
theorem Walks.target_eq (walk : Walks h before here steps prior there)
    (hl : locateFrom h before here steps = .ok l) : l.target = there.path := by
  induction walk with
  | nil =>
    cases hl
    rfl
  | @cons before here next prior there step tail attr slot first walk ih =>
    by_cases htail : tail = []
    · subst htail
      cases walk
      obtain ⟨pattern, hpattern, hpick⟩ := first.picked
      rw [locateFrom_last first.resolved hpattern first.notBag hpick] at hl
      cases hl
      rfl
    · rw [first.locateFrom_cons htail] at hl
      exact ih hl

/-! ## The same walk in another root -/

theorem tag?_eq_of_at? {old new : Layout} (ho : root.at? path = some old)
    (hn : root'.at? path = some new)
    (he : Value.at? (.object root') (path ++ [.field Document.classKey]) =
      Value.at? (.object root) (path ++ [.field Document.classKey])) :
    Document.tag? new = Document.tag? old := by
  rw [Value.at?_append_of_at? (Layout.at?_eq_some_iff.1 hn),
    Value.at?_append_of_at? (Layout.at?_eq_some_iff.1 ho), Value.at?_field, Value.at?_field] at he
  rw [Document.tag?, Document.tag?, he]

/-- A step leads to an object also in another root if it goes to the same slot there, the slot holds
an object, and this names the same class. -/
theorem Advances.exists_next (ha : Advances h here step attr slot next) (hin : here.In root)
    (hin' : here'.In root') (hpath : here'.path = here.path) (hclass : here'.classId = here.classId)
    (hpattern : step.pattern = some pattern)
    (hpick : pick h here' attr step.key pattern = .ok (.object fields, path, slot))
    (htag : Value.at? (.object root') (next.path ++ [.field Document.classKey]) =
      Value.at? (.object root) (next.path ++ [.field Document.classKey])) :
    path = next.path ∧ Advances h here' step attr slot ⟨next.path, next.classId, fields⟩ := by
  have hattr : h.resolveKey here'.classId step.key = .ok attr := hclass ▸ ha.resolved
  obtain ⟨hop, rfl⟩ := hop_of_pick hattr hpattern hpick
  obtain ⟨-, hnext⟩ := ha.hop
  have hsame : here'.path ++ slot.path = next.path := by rw [hnext, hpath]
  have hfields : root'.at? next.path = some fields :=
    hsame ▸ Layout.at?_eq_some_iff.2 (hop.at?_path hin')
  have hsameTag := tag?_eq_of_at? (ha.in_root hin) hfields htag
  have hembedded : h.embeddedClass attr.elementClass fields = some next.classId := by
    have hclassed := ha.classed
    unfold Hierarchy.embeddedClass at hclassed ⊢
    rw [hsameTag]
    exact hclassed
  rw [hsame] at hpick
  exact ⟨hsame, hattr, ha.notBag, ⟨pattern, hpattern, hpick⟩, hembedded⟩

/-- Where a selector ends at an object, its first step goes to an object if it has a pattern, and
the other steps go on from there. -/
theorem exists_object_of_locateFrom (hattr : h.resolveKey here.classId step.key = .ok attr)
    (hpattern : step.pattern = some pattern) (hin : here.In root)
    (hl : locateFrom h before here (step :: steps) = .ok l)
    (hobject : root.at? l.target = some last) :
    ∃ fields slot rest, l.target = here.path ++ (slot.path ++ rest) ∧ rest.EntersField ∧
      pick h here attr step.key pattern = .ok (.object fields, here.path ++ slot.path, slot) ∧
      ∀ c, h.embeddedClass attr.elementClass fields = some c →
        ∃ l', locateFrom h here ⟨here.path ++ slot.path, c, fields⟩ steps = .ok l' ∧
          l'.target = l.target := by
  obtain ⟨attr', hattr', ⟨hnone, -, -⟩ | ⟨pattern', v, path, slot, hpattern', hpick, hend⟩⟩ :=
    locateFrom_cons_eq_ok hl
  · rw [hpattern] at hnone
    cases hnone
  · rw [hattr] at hattr'
    cases hattr'
    rw [hpattern] at hpattern'
    cases hpattern'
    obtain ⟨hop, rfl⟩ := hop_of_pick hattr hpattern hpick
    rcases hend with ⟨rfl, rfl⟩ | ⟨fields, c, -, rfl, hclass, hl'⟩
    · have hvalue := hop.at?_path hin
      rw [Layout.at?_eq_some_iff.1 hobject] at hvalue
      cases hvalue
      refine ⟨last, slot, [], ?_, Path.entersField_nil, hpick, ?_⟩
      · rw [List.append_nil]
      · intro c _
        exact ⟨_, rfl, rfl⟩
    · obtain ⟨rest, hrest, henters⟩ := exists_target_path hl'
      refine ⟨fields, slot, rest, ?_, henters, hpick, ?_⟩
      · rw [hrest, List.append_assoc]
      · intro c' hclass'
        have hc : h.embeddedClass attr.elementClass fields = some c := hclass
        rw [hc] at hclass'
        cases hclass'
        exact ⟨l, hl', rfl⟩

/-- Steps walk as before if they end at the same place, there is an object, and the objects on the
way name the same classes. -/
theorem Walks.exists_walks (walk : Walks h before here steps prior there) (hin : here.In root)
    (hin' : here'.In root') (hpath : here'.path = here.path) (hclass : here'.classId = here.classId)
    (hl : locateFrom h before' here' steps = .ok l) (htarget : l.target = there.path)
    (hobject : root'.at? there.path = some last)
    (htags : ∀ p, p <+: there.path →
      Value.at? (.object root') (p ++ [.field Document.classKey]) =
        Value.at? (.object root) (p ++ [.field Document.classKey])) :
    ∃ prior' there', Walks h before' here' steps prior' there' ∧ there'.path = there.path ∧
      there'.classId = there.classId := by
  induction walk generalizing before' here' l with
  | nil => exact ⟨before', here', .nil, hpath, hclass⟩
  | @cons before here next prior there step tail attr slot first walk ih =>
    obtain ⟨rest, hrest, henters⟩ := walk.exists_path
    obtain ⟨-, hnext⟩ := first.hop
    obtain ⟨pattern, hpattern, -⟩ := first.picked
    have hattr : h.resolveKey here'.classId step.key = .ok attr := hclass ▸ first.resolved
    obtain ⟨fields, slot', rest', hrest', henters', hpick, hgo⟩ :=
      exists_object_of_locateFrom hattr hpattern hin' hl (htarget ▸ hobject)
    have hslot : slot' = slot := by
      rw [htarget, hrest, hnext, hpath, List.append_assoc, List.append_cancel_left_eq] at hrest'
      exact Slot.path_inj henters' henters hrest'.symm
    cases hslot
    have hnextTag := htags next.path (hrest ▸ List.prefix_append next.path rest)
    obtain ⟨hsame, first'⟩ :=
      first.exists_next hin hin' hpath hclass hpattern hpick hnextTag
    rw [hsame] at hgo
    obtain ⟨l', hl', htarget'⟩ := hgo next.classId first'.classed
    obtain ⟨prior', there', walk', hend⟩ :=
      ih (first.in_root hin) (first'.in_root hin') rfl rfl hl' (htarget'.trans htarget) hobject
        htags
    exact ⟨prior', there', .cons first' walk', hend⟩

end Selector

end TypedDocs
