import TypedDocs.Pattern.Basic
import TypedDocs.Proofs.Edit.Target

/-!
# What pulling changes

`pull` takes away what the last step of its selector matched: the first item of an array that
matches, or what is stored for an attribute of embedded objects.  It needs no more than that the
selector leads there with a pattern; and the slot is all that changes.

    (∃ root', pull … root = .ok () root') ↔
      ∃ l attr pattern, Asks … l attr pattern ∧ Removable root l attr pattern     (exists_pull_iff)
    pull … root = .ok () root' → … Removes h attr pattern parent new ∧
      root.replace? l.parent new = some root'                                     (removes_of_pull)
-/

namespace TypedDocs.Edit

section Engine

variable {ρ : Type} [Pattern.Engine ρ]

open Query (Matches FirstMatch)

/-! ## Definitions -/

/-- A selector leads to what is stored for an attribute, and its last step asks for a pattern
there. -/
structure Asks (h : Hierarchy) (rootClass : String) (root : Layout) (s : Selector) (l : Location)
    (attr : ResolvedAttribute) (pattern : Value) : Prop where
  located : s.locate h rootClass root = .ok l
  named : l.attribute? = some attr
  asked : s.getLast?.bind SelectorStep.pattern = some pattern

/-- What is stored for an attribute can be searched for an item with a pattern, or the attribute is
one of embedded objects. -/
inductive Removable (root : Layout) (l : Location) (attr : ResolvedAttribute) (pattern : Value) :
    Prop where
  | item {element : AttributeType} {items : List Value} (htype : attr.type = .arrayOf element)
    (hstored : Value.at? (.object root) (l.parent ++ [.field attr.wire]) = some (.array items))
    (hother : ∀ patterns, pattern ≠ .array patterns)
  | object {classId : String} (htype : attr.type = .instanceOf classId)

/-- An object without the first item that matches a pattern, or without what it stores for an
attribute of embedded objects. -/
inductive Removes (h : Hierarchy) (attr : ResolvedAttribute) (pattern : Value) (parent : Layout) :
    Layout → Prop where
  | item {element : AttributeType} {before after : List Value} {item : Value}
    (htype : attr.type = .arrayOf element)
    (hstored : parent.get? attr.wire = some (.array (before ++ item :: after)))
    (hother : ∀ patterns, pattern ≠ .array patterns)
    (hmatch : Matches h false attr.elementClass item pattern)
    (hfirst : ∀ other ∈ before, ¬Matches h false attr.elementClass other pattern) :
    Removes h attr pattern parent (parent.insert attr.wire (.array (before ++ after)))
  | object {classId : String} {stored : Value} (htype : attr.type = .instanceOf classId)
    (hstored : parent.get? attr.wire = some stored) :
    Removes h attr pattern parent (parent.erase attr.wire)

variable {h : Hierarchy} {rootClass : String} {root root' parent new : Layout} {s : Selector}
  {l : Location} {attr : ResolvedAttribute} {slot : Slot} {here : Selector.Position}
  {step : SelectorStep} {pattern value : Value}

/-! ## The first item that matches -/

/-- The first item that matches splits an array, and is what goes when its place is erased. -/
theorem split_of_firstMatch {declared : Option String} {items : List Value} {item : Value} {i : Nat}
    (hf : FirstMatch h false declared items pattern i item) :
    ∃ before after, items = before ++ item :: after ∧ items.eraseIdx i = before ++ after ∧
      ∀ other ∈ before, ¬Matches h false declared other pattern := by
  obtain ⟨hi, hitem⟩ := List.getElem?_eq_some_iff.1 hf.found
  refine ⟨items.take i, items.drop (i + 1), ?split, List.eraseIdx_eq_take_drop_succ items i, ?first⟩
  case split =>
    rw [← hitem, List.getElem_cons_drop, List.take_append_drop]
  case first =>
    intro other hother
    obtain ⟨j, hj, hat⟩ := List.mem_take_iff_getElem.1 hother
    have hlt : j < i := by omega
    have hfound : items[j]? = some other := by
      rw [List.getElem?_eq_getElem (by omega), hat]
    exact hf.least j hlt other hfound

/-! ## What a slot holds -/

/-- A location with a slot is where the last step hops to from the parent. -/
theorem exists_hop_of_locate (hl : s.locate h rootClass root = .ok l) (hslot : l.slot = some slot) :
    ∃ here step attr value, s.getLast? = some step ∧ l.attribute? = some attr ∧
      root.at? l.parent = some here.layout ∧ Selector.Hop h here step attr slot value := by
  obtain ⟨value, hleads⟩ := Selector.exists_leads_of_locate hl
  obtain ⟨here, step, attr, hlast, hattr, hparent, hop⟩ :=
    hleads.exists_hop hslot (Selector.Position.in_root rootClass root)
  exact ⟨here, step, attr, value, hlast, hattr, hparent, hop⟩

theorem locateObject_of_locate (hl : s.locate h rootClass root = .ok l) :
    locateObject h rootClass root s = .ok l := by
  rw [locateObject, hl]

/-- What is taken out of the object where a hop starts is what the hop has matched. -/
theorem removes_of_withoutSlot (hop : Selector.Hop h here step attr slot value)
    (hpattern : step.pattern = some pattern)
    (hw : withoutSlot attr.type here.layout slot = some new) :
    Removes h attr pattern here.layout new := by
  cases ht : attr.type with
  | arrayOf element =>
    rw [ht, withoutSlot] at hw
    cases hop with
    | whole hattr hp hvalue hplain hmatch => cases hw
    | @item p found items i hattr hp hvalue hother hfirst =>
      rw [hp] at hpattern
      cases hpattern
      obtain ⟨before, after, hsplit, herase, hmiss⟩ := split_of_firstMatch hfirst
      have hi : i < items.length := (List.getElem?_eq_some_iff.1 hfirst.found).1
      simp only [hvalue, if_pos hi, Option.some.injEq] at hw
      rw [← hw, herase]
      exact .item ht (hsplit ▸ hvalue) hother hfirst.matched hmiss
  | instanceOf c =>
    have hkey : slot.key = attr.wire := by cases hop <;> rfl
    rw [ht, withoutSlot] at hw
    split at hw
    · next hcontains =>
      cases hw
      obtain ⟨stored, hstored⟩ := Option.isSome_iff_exists.1 hcontains
      rw [hkey] at hstored ⊢
      exact .object ht hstored
    · cases hw
  | _ =>
    rw [ht] at hw
    cases hw

/-- Something can be taken out of the object where a hop starts. -/
theorem exists_withoutSlot (hop : Selector.Hop h here step attr slot value)
    (hpattern : step.pattern = some pattern) (hparent : root.at? l.parent = some here.layout)
    (hr : Removable root l attr pattern) :
    ∃ new, withoutSlot attr.type here.layout slot = some new := by
  cases hr with
  | @item element stored ht hstored hother =>
    rw [Value.at?_append_of_at? (Layout.at?_eq_some_iff.1 hparent), Value.at?_field] at hstored
    rw [ht, withoutSlot]
    cases hop with
    | whole hattr hp hvalue hplain hmatch =>
      rw [hp] at hpattern
      cases hpattern
      rw [hvalue] at hstored
      obtain ⟨patterns, he⟩ := hplain stored (Option.some.inj hstored)
      exact absurd he (hother patterns)
    | @item p found items i hattr hp hvalue _ hfirst =>
      have hi : i < items.length := (List.getElem?_eq_some_iff.1 hfirst.found).1
      simp only [hvalue, if_pos hi]
      exact ⟨_, rfl⟩
  | object ht =>
    have hcontains : here.layout.contains slot.key = true := by
      cases hop with
      | whole _ _ hvalue _ _ => simp [Keyed.contains, hvalue]
      | item _ _ hvalue _ _ => simp [Keyed.contains, hvalue]
    rw [ht, withoutSlot, if_pos hcontains]
    exact ⟨_, rfl⟩

theorem Removes.removable (hr : Removes h attr pattern parent new)
    (hparent : root.at? l.parent = some parent) : Removable root l attr pattern := by
  cases hr with
  | item htype hstored hother _ _ =>
    have hat := Value.at?_append_of_at? (Layout.at?_eq_some_iff.1 hparent) [.field attr.wire]
    rw [Value.at?_field, hstored] at hat
    exact .item htype hat hother
  | object htype _ => exact .object htype

/-! ## When pulling succeeds -/

theorem removes_of_pull (hp : pull h rootClass s root = .ok () root') :
    ∃ l attr pattern parent new, Asks h rootClass root s l attr pattern ∧
      root.at? l.parent = some parent ∧ Removes h attr pattern parent new ∧
      root.replace? l.parent new = some root' := by
  obtain ⟨l, attr, slot, parent, new, hlocate, hattr, hslot, hparent, hw, hr⟩ :=
    pull_eq_ok_iff.1 hp
  have hl := locate_of_locateObject hlocate
  obtain ⟨here, step, attr', value, hlast, hattr', hhere, hop⟩ := exists_hop_of_locate hl hslot
  rw [hattr] at hattr'
  cases hattr'
  rw [hparent] at hhere
  cases hhere
  obtain ⟨pattern, hpattern⟩ := hop.exists_pattern
  have hasks : Asks h rootClass root s l attr pattern := by
    refine ⟨hl, hattr, ?_⟩
    rw [hlast]
    exact hpattern
  exact ⟨l, attr, pattern, _, new, hasks, hparent, removes_of_withoutSlot hop hpattern hw, hr⟩

theorem exists_pull_iff :
    (∃ root', pull h rootClass s root = .ok () root') ↔
      ∃ l attr pattern, Asks h rootClass root s l attr pattern ∧
        Removable root l attr pattern := by
  constructor
  · rintro ⟨root', hp⟩
    obtain ⟨l, attr, pattern, parent, new, hasks, hparent, hremoves, -⟩ := removes_of_pull hp
    exact ⟨l, attr, pattern, hasks, hremoves.removable hparent⟩
  · rintro ⟨l, attr, pattern, ⟨hl, hattr, hasked⟩, hremovable⟩
    obtain ⟨_, hleads⟩ := Selector.exists_leads_of_locate hl
    have hsome : l.slot.isSome = true := by
      rw [hleads.isSome_slot, hasked]
      rfl
    obtain ⟨slot, hslot⟩ := Option.isSome_iff_exists.1 hsome
    obtain ⟨here, step, attr', value, hlast, hattr', hparent, hop⟩ := exists_hop_of_locate hl hslot
    rw [hattr] at hattr'
    cases hattr'
    have hpattern : step.pattern = some pattern := by
      rw [hlast] at hasked
      exact hasked
    obtain ⟨new, hw⟩ := exists_withoutSlot hop hpattern hparent hremovable
    obtain ⟨root', hr⟩ := Layout.exists_replace? hparent new
    exact ⟨root', pull_eq_ok_iff.2
      ⟨l, attr, slot, _, new, locateObject_of_locate hl, hattr, hslot, hparent, hw, hr⟩⟩

/-! ## Main statement -/

theorem Removes.agreeApart (hr : Removes h attr pattern parent new) :
    Value.AgreeApart [.field attr.wire] (.object parent) (.object new) := by
  cases hr with
  | item _ hstored _ _ _ => exact Value.agreeApart_insert hstored (Value.agreeApart_nil _ _)
  | object _ _ => exact Value.agreeApart_erase parent attr.wire

/-- Pulling succeeds exactly when the selector leads to a match of its last step and this was an
item of an array, or stands for an attribute of embedded objects.  Then the array has lost the first
item that matches, or the object its field; and what is apart from there stays. -/
theorem pull_removes (h : Hierarchy) (rootClass : String) (root : Layout) (s : Selector) :
    ((∃ root', pull h rootClass s root = .ok () root') ↔
      ∃ l attr pattern, Asks h rootClass root s l attr pattern ∧
        Removable root l attr pattern) ∧
    ∀ root', pull h rootClass s root = .ok () root' →
      ∃ l attr pattern parent new, Asks h rootClass root s l attr pattern ∧
        root.at? l.parent = some parent ∧ Removes h attr pattern parent new ∧
        root.replace? l.parent new = some root' ∧ root'.at? l.parent = some new ∧
        Value.AgreeApart (l.parent ++ [.field attr.wire]) (.object root) (.object root') := by
  refine ⟨exists_pull_iff, ?_⟩
  intro root' hp
  obtain ⟨l, attr, pattern, parent, new, hasks, hparent, hremoves, hr⟩ := removes_of_pull hp
  have hapart := agreeApart_of_replace? hparent hr hremoves.agreeApart
  exact ⟨l, attr, pattern, parent, new, hasks, hparent, hremoves, hr, Layout.at?_of_replace? hr,
    hapart⟩

end Engine

/-- The subtask that is to be printed goes, and the one before it stays. -/
theorem pull_removes_subtask :
    ∃ root', pull .tasks "Task" [⟨"tasks", some (.object [("name", .string "print")])⟩]
        Selector.plannedTask = .ok () root' ∧
      ∃ l attr pattern parent new,
        Asks .tasks "Task" Selector.plannedTask
          [⟨"tasks", some (.object [("name", .string "print")])⟩] l attr pattern ∧
        Removes .tasks attr pattern parent new ∧ root'.at? l.parent = some new ∧
        Value.AgreeApart (l.parent ++ [.field attr.wire]) (.object Selector.plannedTask)
          (.object root') := by
  obtain ⟨hiff, hchanges⟩ := pull_removes .tasks "Task" Selector.plannedTask
    [⟨"tasks", some (.object [("name", .string "print")])⟩]
  have hlocate : Selector.locate .tasks "Task" Selector.plannedTask
      [⟨"tasks", some (.object [("name", .string "print")])⟩] =
        .ok ⟨[.field "tasks", .index 1], some "SubTask", [], "Task",
          some ⟨⟨"tasks", .arrayOf (.instanceOf "SubTask")⟩, "Task", .plain "tasks"⟩,
          some ⟨"tasks", some 1⟩⟩ := by
    cbv
  obtain ⟨root', hp⟩ := hiff.2 ⟨_, _, _, ⟨hlocate, rfl, rfl⟩, .item rfl rfl (by simp)⟩
  obtain ⟨l, attr, pattern, parent, new, hasks, -, hremoves, -, hnew, hapart⟩ := hchanges root' hp
  exact ⟨root', hp, l, attr, pattern, parent, new, hasks, hremoves, hnew, hapart⟩

end TypedDocs.Edit
