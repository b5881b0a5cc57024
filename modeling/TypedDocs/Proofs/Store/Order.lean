import TypedDocs.Proofs.Assignment.Order
import TypedDocs.Proofs.Store.Identity
import TypedDocs.Proofs.Store.Origin

/-!
# Stored documents are ordered

Calls whose values are ordered keep every stored document ordered: creation assigns to a blank
document, an edit replaces one layout by one that it has made of ordered values, and a view writes
ordered values at the root.

    Reachable h strict s → s.documents.get? id = some doc → Layout.Ordered doc        (ordered)
-/

namespace TypedDocs

/-! ## Edits -/

namespace Edit

variable {ρ : Type} [Pattern.Engine ρ]
variable {h : Hierarchy} {strict : Bool} {rootClass : String} {root root' : Layout} {s : Selector}

theorem ordered_set {values : Layout} (ho : root.Ordered) (hv : values.Ordered)
    (hs : set h strict rootClass s values root = .ok () root') : root'.Ordered := by
  obtain ⟨l, classId, target, new, -, -, -, htarget, ha, hr⟩ := set_eq_ok_iff.1 hs
  have hnew : new.Ordered := Assignment.ordered_assign (ho.at? htarget) hv ha
  exact ho.replace? hnew hr

/-- The items of an array in an ordered layout are ordered. -/
theorem ordered_itemsUnder {owner : Layout} {key : String} {items : List Value}
    (ho : owner.Ordered) (hi : itemsUnder owner key = some items) :
    ∀ item ∈ items, item.Ordered := by
  rw [itemsUnder] at hi
  cases hv : owner.get? key with
  | none =>
    rw [hv] at hi
    cases hi
    simp
  | some value =>
    rw [hv] at hi
    cases value with
    | array found =>
      cases hi
      exact Value.ordered_array_iff.1 (ho.get? hv)
    | _ => cases hi

theorem ordered_push {value : Value} (ho : root.Ordered) (hv : value.Ordered)
    (hp : push h strict rootClass s value root = .ok () root') : root'.Ordered := by
  obtain ⟨l, attr, element, item, owner, items, -, -, -, hitem, howner, hitems, hr⟩ :=
    push_eq_ok_iff.1 hp
  have hall : ∀ i ∈ items ++ [item], i.Ordered := by
    intro i hi
    rcases List.mem_append.1 hi with hi | hi
    · exact ordered_itemsUnder (ho.at? howner) hitems i hi
    · rw [List.mem_singleton.1 hi]
      exact Assignment.ordered_typedValue value hv hitem
  exact ho.replace? ((ho.at? howner).insert attr.wire (Value.ordered_array_iff.2 hall)) hr

theorem ordered_withoutSlot {type : AttributeType} {parent new : Layout} {slot : Slot}
    (ho : parent.Ordered) (hw : withoutSlot type parent slot = some new) : new.Ordered := by
  unfold withoutSlot at hw
  split at hw
  · split at hw
    · next i items _ hitems =>
      split at hw
      · cases hw
        have hall := Value.ordered_array_iff.1 (ho.get? hitems)
        refine ho.insert slot.key (Value.ordered_array_iff.2 fun item hm => ?_)
        exact hall item (List.mem_of_mem_eraseIdx hm)
      · cases hw
    · cases hw
  · split at hw
    · cases hw
      exact ho.erase slot.key
    · cases hw
  · cases hw

theorem ordered_pull (ho : root.Ordered) (hp : pull h rootClass s root = .ok () root') :
    root'.Ordered := by
  obtain ⟨l, attr, slot, parent, new, -, -, -, hparent, hw, hr⟩ := pull_eq_ok_iff.1 hp
  exact ho.replace? (ordered_withoutSlot (ho.at? hparent) hw) hr

end Edit

/-! ## Creation and views -/

namespace Store

variable {ρ : Type} [Pattern.Engine ρ]
variable {h : Hierarchy} {strict : Bool} {s : Store} {a : Action} {id : String} {doc : Document}

theorem ordered_blankDocument (classId concrete id : String) :
    Layout.Ordered (blankDocument h classId concrete id) := by
  have hid : Layout.Ordered (Keyed.insert [] Document.idKey (.string id)) :=
    Layout.ordered_nil.insert _ (Value.ordered_of_isScalar rfl)
  have hbase := hid.insert Document.classKey (v := .string concrete) (Value.ordered_of_isScalar rfl)
  rw [blankDocument]
  split
  · refine hbase.insert Document.mixinsKey (Value.ordered_array_iff.2 fun item hi => ?_)
    rw [List.mem_singleton.1 hi]
    exact Value.ordered_of_isScalar rfl
  · exact hbase

theorem ordered_newDocument {classId concrete : String} {values : Layout} (hv : values.Ordered)
    (hn : s.newDocument classId values id = .ok (doc, concrete)) : Layout.Ordered doc :=
  Assignment.ordered_assign (ordered_blankDocument classId concrete id) hv
    (newDocument_eq_ok hn).2.1

theorem ordered_addMixin (ho : Layout.Ordered doc) (mixin : String) :
    Layout.Ordered (doc.addMixin mixin) := by
  rcases Document.addMixin_cases doc mixin with he | ⟨items, he, hitems⟩
  · rw [he]
    exact ho
  · rw [he]
    refine ho.insert Document.mixinsKey (Value.ordered_array_iff.2 fun item hi => ?_)
    rcases List.mem_append.1 hi with hi | hi
    · rcases hitems with rfl | hget
      · cases hi
      · exact Value.ordered_array_iff.1 (ho.get? hget) item hi
    · rw [List.mem_singleton.1 hi]
      exact Value.ordered_of_isScalar rfl

theorem ordered_edited (ho : Layout.Ordered doc) (c : Classifier) {edits : List ViewEdit}
    (hedits : ∀ e ∈ edits, e.Ordered) : Layout.Ordered (doc.edited h c edits).2.layout := by
  refine View.applyAll_induction (P := Layout.Ordered) ho ?_ ?_
  · intro name value he a _ layout hl
    exact hl.insert a.key.wire (hedits _ he)
  · intro name a _ layout hl
    exact hl.erase a.key.wire

/-! ## Reachable stores -/

theorem Derives.ordered (hd : s.Derives a id doc) (ha : a.Ordered)
    (hs : ∀ id doc, s.documents.get? id = some doc → Layout.Ordered doc) : Layout.Ordered doc := by
  cases hd with
  | kept hid => exact hs _ _ hid
  | loaded hm _ => exact ha _ hm
  | created hdoc => exact ordered_newDocument ha hdoc
  | updated hid he => exact Edit.ordered_set (hs _ _ hid) ha.2 he
  | pushed hid he => exact Edit.ordered_push (hs _ _ hid) ha.2 he
  | pulled hid he => exact Edit.ordered_pull (hs _ _ hid) he
  | edited hid _ _ => exact ordered_edited (hs _ _ hid) _ ha
  | cast hid _ _ => exact ordered_edited (ordered_addMixin (hs _ _ hid) _) _ ha

theorem ReachableBy.ordered (hs : Reachable h strict s) (hid : s.documents.get? id = some doc) :
    Layout.Ordered doc :=
  ReachableBy.forall_document hs (fun _ ha hall hd => hd.ordered ha hall) id doc hid

end Store

end TypedDocs
