import TypedDocs.Pattern.Basic
import TypedDocs.Proofs.Edit.Target

/-!
# What pushing changes

`push` adds one item to the array of an attribute that its selector names.  It needs no more than
that the selector leads to such an attribute, the value can be typed as an item of it, and there is
nothing else than an array; and the place after the last item is all that changes.

    (∃ root', push … root = .ok () root') ↔
      ∃ l attr item, PushesItem … l attr item ∧ …                                 (exists_push_iff)
    itemsUnder owner key = some items →
      AgreeApart [.field key, .index items.length] owner (owner.insert key (items ++ [item]))
                                                                                (agreeApart_append)
-/

namespace TypedDocs.Edit

section Engine

variable {ρ : Type} [Pattern.Engine ρ]

/-! ## Definition -/

/-- A selector leads to an attribute of arrays, and a value is typed as an item of it. -/
structure PushesItem (h : Hierarchy) (strict : Bool) (rootClass : String) (root : Layout)
    (s : Selector) (value : Value) (l : Location) (attr : ResolvedAttribute) (item : Value) :
    Prop where
  located : s.locate h rootClass root = .ok l
  named : l.attribute? = some attr
  typed : ∃ element, attr.type = .arrayOf element ∧
    Assignment.typedValue h strict attr.name element value = .ok item

variable {h : Hierarchy} {strict : Bool} {rootClass : String} {root root' owner : Layout}
  {s : Selector} {l : Location} {key : String} {items : List Value} {value : Value}

/-! ## The object that holds the array -/

theorem itemsUnder_eq_some_iff :
    itemsUnder owner key = some items ↔
      owner.get? key = none ∧ items = [] ∨ owner.get? key = some (.array items) := by
  rw [itemsUnder]
  cases hv : owner.get? key with
  | none => simp [eq_comm]
  | some value => cases value <;> simp

/-- A selector that names an attribute leads to an object that can hold it. -/
theorem exists_owner (hl : s.locate h rootClass root = .ok l)
    (ha : l.attribute?.isSome = true) : ∃ owner, root.at? (ownerPath l) = some owner := by
  rw [ownerPath]
  by_cases hslot : l.slot.isSome = true
  · rw [if_pos hslot]
    exact Selector.exists_parent_of_locate hl
  · rw [if_neg hslot]
    obtain ⟨value, hleads⟩ := Selector.exists_leads_of_locate hl
    obtain ⟨htarget, hobject⟩ := hleads.at?_target (Selector.Position.in_root rootClass root)
    cases hleads with
    | start => cases ha
    | named trail hpattern hattr => exact ⟨_, Layout.at?_eq_some_iff.2 htarget⟩
    | hopped trail hop => exact absurd rfl hslot

/-! ## The place after the last item -/

/-- An item that is added to the array of an object is all that changes there, also where the array
is a new one. -/
theorem agreeApart_append (hi : itemsUnder owner key = some items) (item : Value) :
    Value.AgreeApart [.field key, .index items.length] (.object owner)
      (.object (owner.insert key (.array (items ++ [item])))) := by
  rcases itemsUnder_eq_some_iff.1 hi with ⟨hnone, rfl⟩ | harray
  · intro other ha
    cases other with
    | nil => exact absurd rfl ha.ne_nil
    | cons step rest =>
      cases step with
      | index i => rfl
      | field k =>
        rw [Value.at?, Value.at?]
        by_cases hk : k = key
        · subst hk
          have hrest := ha.of_cons
          rw [Keyed.get?_insert_self, hnone, Option.bind_some, Option.bind_none,
            Value.agreeApart_concat [] item rest hrest]
          cases rest with
          | nil => exact absurd rfl hrest.ne_nil
          | cons step rest => cases step <;> rfl
        · rw [Keyed.get?_insert_of_ne owner _ hk]
  · exact Value.agreeApart_insert harray (Value.agreeApart_concat items item)

/-! ## When pushing succeeds -/

theorem exists_push_iff :
    (∃ root', push h strict rootClass s value root = .ok () root') ↔
      ∃ l attr item, PushesItem h strict rootClass root s value l attr item ∧
        ∀ stored, Value.at? (.object root) (ownerPath l ++ [.field attr.wire]) = some stored →
          ∃ items, stored = .array items := by
  constructor
  · rintro ⟨root', hp⟩
    obtain ⟨l, attr, element, item, owner, items, hl, ha, ht, hitem, ho, hi, -⟩ :=
      push_eq_ok_iff.1 hp
    refine ⟨l, attr, item, ⟨hl, ha, element, ht, hitem⟩, fun stored hstored => ?_⟩
    rw [Value.at?_append_of_at? (Layout.at?_eq_some_iff.1 ho), Value.at?_field] at hstored
    rcases itemsUnder_eq_some_iff.1 hi with ⟨hnone, -⟩ | harray
    · rw [hnone] at hstored
      cases hstored
    · rw [harray] at hstored
      cases hstored
      exact ⟨items, rfl⟩
  · rintro ⟨l, attr, item, ⟨hl, ha, element, ht, hitem⟩, hstored⟩
    obtain ⟨owner, ho⟩ := exists_owner hl (by rw [ha]; rfl)
    simp only [Value.at?_append_of_at? (Layout.at?_eq_some_iff.1 ho), Value.at?_field] at hstored
    have hitems : ∃ items, itemsUnder owner attr.wire = some items := by
      cases hv : owner.get? attr.wire with
      | none => exact ⟨[], itemsUnder_eq_some_iff.2 (.inl ⟨hv, rfl⟩)⟩
      | some stored =>
        obtain ⟨items, rfl⟩ := hstored stored hv
        exact ⟨items, itemsUnder_eq_some_iff.2 (.inr hv)⟩
    obtain ⟨items, hi⟩ := hitems
    obtain ⟨root', hr⟩ :=
      Layout.exists_replace? ho (owner.insert attr.wire (.array (items ++ [item])))
    exact ⟨root', push_eq_ok_iff.2
      ⟨l, attr, element, item, owner, items, hl, ha, ht, hitem, ho, hi, hr⟩⟩

/-! ## Main statement -/

/-- Wherever a selector leads, its slot says whether its last step has a pattern.  Pushing succeeds
exactly when the selector names an attribute of arrays, the value can be typed as an item, and the
object that holds the attribute has nothing there or an array; then the array has one item more, the
last one, and what is apart from its place stays. -/
theorem push_appends (h : Hierarchy) (strict : Bool) (rootClass : String) (root : Layout)
    (s : Selector) (value : Value) :
    (∀ l, s.locate h rootClass root = .ok l →
      l.slot.isSome = (s.getLast?.bind SelectorStep.pattern).isSome) ∧
    ((∃ root', push h strict rootClass s value root = .ok () root') ↔
      ∃ l attr item, PushesItem h strict rootClass root s value l attr item ∧
        ∀ stored, Value.at? (.object root) (ownerPath l ++ [.field attr.wire]) = some stored →
          ∃ items, stored = .array items) ∧
    ∀ root', push h strict rootClass s value root = .ok () root' →
      ∃ l attr item owner items, PushesItem h strict rootClass root s value l attr item ∧
        root.at? (ownerPath l) = some owner ∧
        (owner.get? attr.wire = none ∧ items = [] ∨ owner.get? attr.wire = some (.array items)) ∧
        root'.at? (ownerPath l) = some (owner.insert attr.wire (.array (items ++ [item]))) ∧
        Value.AgreeApart (ownerPath l ++ [.field attr.wire, .index items.length]) (.object root)
          (.object root') := by
  refine ⟨fun l hl => ?_, exists_push_iff, fun root' hp => ?_⟩
  · obtain ⟨_, hleads⟩ := Selector.exists_leads_of_locate hl
    exact hleads.isSome_slot
  · obtain ⟨l, attr, element, item, owner, items, hl, ha, ht, hitem, ho, hi, hr⟩ :=
      push_eq_ok_iff.1 hp
    have hapart := agreeApart_of_replace? ho hr (agreeApart_append hi item)
    exact ⟨l, attr, item, owner, items, ⟨hl, ha, element, ht, hitem⟩, ho,
      itemsUnder_eq_some_iff.1 hi, Layout.at?_of_replace? hr, hapart⟩

end Engine

/-- A third subtask. -/
theorem push_appends_subtask :
    ∃ root', push .tasks true "Task" [⟨"tasks", none⟩] (.object [("name", .string "send")])
        Selector.plannedTask = .ok () root' ∧
      ∃ l attr item owner items, PushesItem .tasks true "Task" Selector.plannedTask
          [⟨"tasks", none⟩] (.object [("name", .string "send")]) l attr item ∧
        Selector.plannedTask.at? (ownerPath l) = some owner ∧
        root'.at? (ownerPath l) = some (owner.insert attr.wire (.array (items ++ [item]))) ∧
        Value.AgreeApart (ownerPath l ++ [.field attr.wire, .index items.length])
          (.object Selector.plannedTask) (.object root') := by
  obtain ⟨root', hp⟩ : ∃ root', push .tasks true "Task" [⟨"tasks", none⟩]
      (.object [("name", .string "send")]) Selector.plannedTask = .ok () root' :=
    ⟨_, push_eq_ok_iff.2 ⟨_, _, _, _, _, _, rfl, rfl, rfl, rfl, rfl, rfl, rfl⟩⟩
  obtain ⟨-, -, hchanges⟩ := push_appends .tasks true "Task" Selector.plannedTask
    [⟨"tasks", none⟩] (.object [("name", .string "send")])
  obtain ⟨l, attr, item, owner, items, hitem, ho, -, hnew, hapart⟩ := hchanges root' hp
  exact ⟨root', hp, l, attr, item, owner, items, hitem, ho, hnew, hapart⟩

end TypedDocs.Edit
