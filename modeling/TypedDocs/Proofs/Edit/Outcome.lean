import TypedDocs.Edit

/-!
# What edits do

An edit writes once, after everything that can fail.  So a failed edit leaves the root as it
was, and what a successful one does is one replacement:

    Editing.Atomic (Edit.set h strict rootClass s values)                    (atomic_set)
    Editing.Atomic (Edit.push h strict rootClass s value)                    (atomic_push)
    Editing.Atomic (Edit.pull h rootClass s)                                 (atomic_pull)

`push` is the one that writes twice when its array is missing; the second write cannot fail.
-/

namespace TypedDocs

/-! ## Definitions -/

namespace Editing

variable {α β : Type}

/-- Whatever it gives, the root stays as it is. -/
def ReadOnly (e : Editing α) : Prop :=
  ∀ root, (∃ a, e root = .ok a root) ∨ ∃ fault, e root = .error fault root

/-- When it fails, the root is left as it was. -/
def Atomic (e : Editing α) : Prop := ∀ root fault left, e root = .error fault left → left = root

/-! ## Sequences -/

theorem bind_apply (e : Editing α) (f : α → Editing β) (root : Layout) :
    (e >>= f) root = match e root with
      | .ok a root => f a root
      | .error fault left => .error fault left := by
  show EStateM.bind e f root = _
  rw [EStateM.bind]
  cases e root <;> rfl

theorem ReadOnly.atomic {e : Editing α} (he : ReadOnly e) : Atomic e := by
  intro root fault left hf
  rcases he root with ⟨a, ha⟩ | ⟨fault', hfault⟩
  · rw [ha] at hf
    cases hf
  · rw [hfault] at hf
    cases hf
    rfl

theorem ReadOnly.bind_atomic {e : Editing α} {f : α → Editing β} (he : ReadOnly e)
    (hf : ∀ a, Atomic (f a)) : Atomic (e >>= f) := by
  intro root fault left h
  rw [bind_apply] at h
  rcases he root with ⟨a, ha⟩ | ⟨fault', hfault⟩
  · rw [ha] at h
    exact hf a root fault left h
  · rw [hfault] at h
    cases h
    rfl

theorem ReadOnly.bind_eq_ok_iff {e : Editing α} {f : α → Editing β} (he : ReadOnly e) {b : β}
    {root root' : Layout} :
    (e >>= f) root = .ok b root' ↔ ∃ a, e root = .ok a root ∧ f a root = .ok b root' := by
  rw [bind_apply]
  rcases he root with ⟨a, ha⟩ | ⟨fault, hfault⟩
  · simp [ha]
  · simp [hfault]

theorem readOnly_throw (fault : Fault) : ReadOnly (throw fault : Editing α) := fun _ =>
  .inr ⟨fault, rfl⟩

theorem readOnly_ofExcept (r : Except Fault α) : ReadOnly (ofExcept r) := by
  intro root
  cases r with
  | ok a => exact .inl ⟨a, rfl⟩
  | error fault => exact .inr ⟨fault, rfl⟩

theorem ofExcept_eq_ok_iff {r : Except Fault α} {a : α} {root root' : Layout} :
    (ofExcept r : Editing α) root = .ok a root' ↔ r = .ok a ∧ root' = root := by
  cases r with
  | ok b =>
    show EStateM.Result.ok b root = .ok a root' ↔ _
    simp [eq_comm]
  | error fault =>
    show EStateM.Result.error fault root = .ok a root' ↔ _
    simp

end Editing

namespace Edit

open Editing

variable {ρ : Type} [Pattern.Engine ρ]
variable {α : Type} {h : Hierarchy} {strict : Bool} {rootClass : String} {root root' : Layout}
  {s : Selector} {path : Path} {key : String}

/-! ## Reading and writing -/

theorem reading_apply (f : Layout → Except Fault α) (root : Layout) :
    reading f root = (ofExcept (f root) : Editing α) root := rfl

theorem readOnly_reading (f : Layout → Except Fault α) : ReadOnly (reading f) := fun root =>
  readOnly_ofExcept (f root) root

theorem reading_eq_ok_iff {f : Layout → Except Fault α} {a : α} :
    reading f root = .ok a root ↔ f root = .ok a := by
  rw [reading_apply, ofExcept_eq_ok_iff]
  simp

theorem readOnly_layoutAt (path : Path) : ReadOnly (layoutAt path) := readOnly_reading _

theorem layoutAt_eq_ok_iff {layout : Layout} :
    layoutAt path root = .ok layout root ↔ root.at? path = some layout := by
  rw [layoutAt, reading_eq_ok_iff]
  cases root.at? path <;> simp

theorem writeAt_apply (path : Path) (new root : Layout) :
    writeAt path new root = match root.replace? path new with
      | some root' => .ok () root'
      | none => .error .objectNotFound root := by
  rw [writeAt, bind_apply, reading_apply]
  cases root.replace? path new <;> rfl

theorem atomic_writeAt (path : Path) (new : Layout) : Atomic (writeAt path new) := by
  intro root fault left hf
  rw [writeAt_apply] at hf
  cases hr : root.replace? path new with
  | some root' =>
    rw [hr] at hf
    cases hf
  | none =>
    rw [hr] at hf
    cases hf
    rfl

theorem writeAt_eq_ok_iff {new : Layout} :
    writeAt path new root = .ok () root' ↔ root.replace? path new = some root' := by
  rw [writeAt_apply]
  cases root.replace? path new <;> simp

/-! ## Appending -/

/-- The array that an item is added to; a missing one is empty. -/
def itemsUnder (owner : Layout) (key : String) : Option (List Value) :=
  match owner.get? key with
  | none => some []
  | some (.array items) => some items
  | some _ => none

theorem slotValue_of_some {owner : Layout} {value : Value} (ho : root.at? path = some owner)
    (hv : owner.get? key = some value) : slotValue path key root = .ok value root := by
  rw [slotValue, bind_apply, layoutAt_eq_ok_iff.2 ho]
  simp only [hv]
  rfl

theorem slotValue_of_none {owner mid : Layout} (ho : root.at? path = some owner)
    (hv : owner.get? key = none)
    (hmid : root.replace? path (owner.insert key (.array [])) = some mid) :
    slotValue path key root = .ok (.array []) mid := by
  rw [slotValue, bind_apply, layoutAt_eq_ok_iff.2 ho]
  simp only [hv, bind_apply, writeAt_eq_ok_iff.2 hmid]
  rfl

/-- Appending is one replacement, also where a new array is put first. -/
theorem append_apply (path : Path) (key : String) (item : Value) (refusal : Fault)
    {owner : Layout} (ho : root.at? path = some owner) :
    append path key item refusal root = match itemsUnder owner key with
      | some items => writeAt path (owner.insert key (.array (items ++ [item]))) root
      | none => .error refusal root := by
  rw [append, bind_apply, itemsUnder]
  cases hv : owner.get? key with
  | some value =>
    rw [slotValue_of_some ho hv]
    cases value with
    | array items => simp only [bind_apply, layoutAt_eq_ok_iff.2 ho]
    | _ => rfl
  | none =>
    obtain ⟨mid, hmid⟩ := Layout.exists_replace? ho (owner.insert key (.array []))
    obtain ⟨last, hlast⟩ := Layout.exists_replace? ho (owner.insert key (.array ([] ++ [item])))
    have hread : layoutAt path mid = .ok (owner.insert key (.array [])) mid :=
      layoutAt_eq_ok_iff.2 (Layout.at?_of_replace? hmid)
    rw [slotValue_of_none ho hv hmid]
    simp only [bind_apply, hread, writeAt_apply, Keyed.insert_insert,
      Layout.replace?_of_replace? hmid, hlast]

theorem atomic_append (path : Path) (key : String) (item : Value) (refusal : Fault) :
    Atomic (append path key item refusal) := by
  intro root fault left hf
  cases ho : root.at? path with
  | some owner =>
    rw [append_apply path key item refusal ho] at hf
    cases hi : itemsUnder owner key with
    | some items =>
      rw [hi] at hf
      exact atomic_writeAt _ _ _ _ _ hf
    | none =>
      rw [hi] at hf
      cases hf
      rfl
  | none =>
    have hnone : layoutAt path root = .error .objectNotFound root := by
      rw [layoutAt, reading_apply, ho]
      rfl
    rw [append, bind_apply, slotValue, bind_apply, hnone] at hf
    cases hf
    rfl

theorem append_eq_ok_iff {item : Value} {refusal : Fault} :
    append path key item refusal root = .ok () root' ↔
      ∃ owner items, root.at? path = some owner ∧ itemsUnder owner key = some items ∧
        root.replace? path (owner.insert key (.array (items ++ [item]))) = some root' := by
  cases ho : root.at? path with
  | some owner =>
    rw [append_apply path key item refusal ho]
    cases hi : itemsUnder owner key with
    | some items => simp [hi, writeAt_eq_ok_iff]
    | none => simp [hi]
  | none =>
    have hnone : layoutAt path root = .error .objectNotFound root := by
      rw [layoutAt, reading_apply, ho]
      rfl
    rw [append, bind_apply, slotValue, bind_apply, hnone]
    simp

/-! ## Set -/

theorem atomic_set (h : Hierarchy) (strict : Bool) (rootClass : String) (s : Selector)
    (values : Layout) : Atomic (set h strict rootClass s values) := by
  refine (readOnly_reading _).bind_atomic fun l => ?_
  cases l.targetClass with
  | none => exact (readOnly_throw _).atomic
  | some classId =>
    refine (readOnly_ofExcept _).bind_atomic fun _ => ?_
    refine (readOnly_layoutAt _).bind_atomic fun scratch => ?_
    cases Assignment.assign h strict classId scratch values with
    | error failure => exact (readOnly_throw _).atomic
    | ok new => exact atomic_writeAt _ _

theorem set_eq_ok_iff {values : Layout} :
    set h strict rootClass s values root = .ok () root' ↔
      ∃ l classId target new, locateObject h rootClass root s = .ok l ∧
        l.targetClass = some classId ∧ checkIdentity h rootClass l.target values = .ok () ∧
        root.at? l.target = some target ∧
        Assignment.assign h strict classId target values = .ok new ∧
        root.replace? l.target new = some root' := by
  rw [set, (readOnly_reading _).bind_eq_ok_iff]
  refine exists_congr fun l => ?_
  rw [reading_eq_ok_iff]
  cases hclass : l.targetClass with
  | none =>
    have : (throw (.wrongType s.lastKey .embeddedObject) : Editing Unit) root ≠ .ok () root' :=
      fun he => by cases he
    simp [this]
  | some classId =>
    simp only [(readOnly_ofExcept _).bind_eq_ok_iff, (readOnly_layoutAt _).bind_eq_ok_iff,
      ofExcept_eq_ok_iff, layoutAt_eq_ok_iff, and_true]
    constructor
    · rintro ⟨hl, _, hcheck, target, htarget, hw⟩
      cases ha : Assignment.assign h strict classId target values with
      | error failure =>
        rw [ha] at hw
        cases hw
      | ok new =>
        rw [ha] at hw
        exact ⟨classId, target, new, hl, rfl, hcheck, htarget, ha, writeAt_eq_ok_iff.1 hw⟩
    · rintro ⟨c, target, new, hl, hc, hcheck, htarget, ha, hw⟩
      cases hc
      refine ⟨hl, (), hcheck, target, htarget, ?_⟩
      rw [ha]
      exact writeAt_eq_ok_iff.2 hw

/-! ## Push -/

/-- The path to the object that holds the array of a push. -/
def ownerPath (l : Location) : Path := if l.slot.isSome then l.parent else l.target

theorem atomic_push (h : Hierarchy) (strict : Bool) (rootClass : String) (s : Selector)
    (value : Value) : Atomic (push h strict rootClass s value) := by
  refine (readOnly_reading _).bind_atomic fun l => ?_
  cases l.attribute? with
  | none => exact (readOnly_throw _).atomic
  | some attr =>
    cases ht : attr.type with
    | arrayOf element =>
      simp only [ht]
      exact (readOnly_ofExcept _).bind_atomic fun item => atomic_append _ _ _ _
    | _ =>
      simp only [ht]
      exact (readOnly_throw _).atomic

theorem push_eq_ok_iff {value : Value} :
    push h strict rootClass s value root = .ok () root' ↔
      ∃ l attr element item owner items, s.locate h rootClass root = .ok l ∧
        l.attribute? = some attr ∧ attr.type = .arrayOf element ∧
        Assignment.typedValue h strict attr.name element value = .ok item ∧
        root.at? (ownerPath l) = some owner ∧ itemsUnder owner attr.wire = some items ∧
        root.replace? (ownerPath l) (owner.insert attr.wire (.array (items ++ [item]))) =
          some root' := by
  rw [push, (readOnly_reading _).bind_eq_ok_iff]
  refine exists_congr fun l => ?_
  rw [reading_eq_ok_iff]
  have hthrow : (throw (.wrongType s.lastKey .array) : Editing Unit) root ≠ .ok () root' :=
    fun he => by cases he
  cases hattr : l.attribute? with
  | none => simp [hthrow]
  | some attr =>
    cases ht : attr.type with
    | arrayOf element =>
      simp only [ht, (readOnly_ofExcept _).bind_eq_ok_iff, ofExcept_eq_ok_iff, append_eq_ok_iff,
        and_true]
      constructor
      · rintro ⟨hl, item, hitem, owner, items, ho, hi, hr⟩
        exact ⟨attr, element, item, owner, items, hl, rfl, ht, hitem, ho, hi, hr⟩
      · rintro ⟨attr', element', item, owner, items, hl, ha, ht', hitem, ho, hi, hr⟩
        cases ha
        rw [ht] at ht'
        cases ht'
        exact ⟨hl, item, hitem, owner, items, ho, hi, hr⟩
    | _ => simp [ht, hthrow]

/-! ## Pull -/

/-- The object without what stands in a slot of it. -/
def withoutSlot (type : AttributeType) (parent : Layout) (slot : Slot) : Option Layout :=
  match type with
  | .arrayOf _ =>
    match slot.index, parent.get? slot.key with
    | some i, some (.array items) =>
      if i < items.length then some (parent.insert slot.key (.array (items.eraseIdx i))) else none
    | _, _ => none
  | .instanceOf _ => if parent.contains slot.key then some (parent.erase slot.key) else none
  | _ => none

theorem atomic_pull (h : Hierarchy) (rootClass : String) (s : Selector) :
    Atomic (pull h rootClass s) := by
  refine (readOnly_reading _).bind_atomic fun l => ?_
  unfold takeAway
  cases l.attribute? with
  | none => exact (readOnly_throw _).atomic
  | some attr =>
    cases l.slot with
    | none => exact (readOnly_throw _).atomic
    | some slot =>
      refine (readOnly_layoutAt _).bind_atomic fun parent => ?_
      cases attr.type with
      | arrayOf element =>
        dsimp only
        split
        · split
          · exact atomic_writeAt _ _
          · exact (readOnly_throw _).atomic
        · exact (readOnly_throw _).atomic
      | instanceOf c =>
        dsimp only
        split
        · exact atomic_writeAt _ _
        · exact (readOnly_throw _).atomic
      | _ => exact (readOnly_throw _).atomic

theorem pull_eq_ok_iff :
    pull h rootClass s root = .ok () root' ↔
      ∃ l attr slot parent new, locateObject h rootClass root s = .ok l ∧
        l.attribute? = some attr ∧ l.slot = some slot ∧ root.at? l.parent = some parent ∧
        withoutSlot attr.type parent slot = some new ∧
        root.replace? l.parent new = some root' := by
  rw [pull, (readOnly_reading _).bind_eq_ok_iff]
  refine exists_congr fun l => ?_
  rw [reading_eq_ok_iff, takeAway]
  have hthrow (fault : Fault) : (throw fault : Editing Unit) root ≠ .ok () root' :=
    fun he => by cases he
  cases hattr : l.attribute? with
  | none => simp [hthrow]
  | some attr =>
    cases hslot : l.slot with
    | none => simp [hthrow]
    | some slot =>
      simp only [(readOnly_layoutAt _).bind_eq_ok_iff, layoutAt_eq_ok_iff, Option.some.injEq,
        exists_and_left, exists_eq_left']
      refine and_congr_right fun hl => exists_congr fun parent => and_congr_right fun hp => ?_
      unfold withoutSlot
      cases attr.type with
      | arrayOf element =>
        cases slot.index with
        | none => simp [hthrow]
        | some i =>
          cases parent.get? slot.key with
          | none => simp [hthrow]
          | some value =>
            cases value with
            | array items =>
              by_cases hi : i < items.length
              · simp [hi, writeAt_eq_ok_iff]
              · simp [hi, hthrow]
            | _ => simp [hthrow]
      | instanceOf c =>
        by_cases hc : parent.contains slot.key = true
        · simp [hc, writeAt_eq_ok_iff]
        · simp [hc, hthrow]
      | _ => simp [hthrow]

end Edit

end TypedDocs
