import TypedDocs.Proofs.Edit.Identity

/-!
# Edits and the fields of a document

The fields of a layout are its keys that are not internal.  What is assigned to a layout are
attributes of its keys, so it gets no other fields.  At the root of a document `set` assigns only
when its selector stays there, `push` adds a field only when its selector has one step, and `pull`
adds none:

    set … root = .ok () root' → root.FieldsIn P → … → root'.FieldsIn P             (fieldsIn_set)
    push … root = .ok () root' → root.FieldsIn P → … → root'.FieldsIn P           (fieldsIn_push)
    pull … root = .ok () root' → root.FieldsIn P → root'.FieldsIn P               (fieldsIn_pull)
-/

namespace TypedDocs

/-! ## Definition -/

/-- Every field of a layout has a property. -/
def Layout.FieldsIn (P : String → Prop) (l : Layout) : Prop :=
  ∀ e ∈ l, Key.isInternal e.1 = false → P e.1

/-! ## Layouts -/

namespace Layout.FieldsIn

variable {P : String → Prop} {l : Layout}

theorem insert (hl : l.FieldsIn P) {key : String} (hk : Key.isInternal key = false → P key)
    (value : Value) : Layout.FieldsIn P (l.insert key value) := by
  intro e he hint
  rcases Keyed.mem_insert he with rfl | he
  · exact hk hint
  · exact hl e he hint

theorem insert_internal (hl : l.FieldsIn P) {key : String} (hk : Key.isInternal key = true)
    (value : Value) : Layout.FieldsIn P (l.insert key value) := by
  refine hl.insert (fun hint => ?_) value
  rw [hk] at hint
  cases hint

theorem erase (hl : l.FieldsIn P) (key : String) : Layout.FieldsIn P (l.erase key) := by
  intro e he hint
  exact hl e (List.mem_of_mem_filter he) hint

theorem replace? {root root' new : Layout} {path : Path} (hr : root.FieldsIn P)
    (hp : root.replace? path new = some root') (hn : path = [] → new.FieldsIn P) :
    root'.FieldsIn P := by
  cases path with
  | nil =>
    rw [Layout.replace?_nil] at hp
    cases hp
    exact hn rfl
  | cons step rest =>
    intro e he hint
    obtain ⟨value, hold⟩ := Layout.exists_mem_of_replace?_cons hp he
    exact hr (e.1, value) hold hint

end Layout.FieldsIn

/-! ## Assignment -/

namespace Assignment

variable {h : Hierarchy} {strict : Bool} {classId : String} {target result : Layout}
  {P : String → Prop}

theorem fieldsIn_withTag {tagged : Layout} (hl : target.FieldsIn P)
    (ht : withTag h classId target = .ok tagged) : tagged.FieldsIn P := by
  rcases withTag_eq_ok ht with ⟨tag, -, rfl⟩ | ⟨c, -, -, rfl⟩
  · exact hl
  · exact hl.insert_internal Document.isInternal_classKey _

theorem fieldsIn_assignEntries {entries : List (String × Value)} (hl : target.FieldsIn P)
    (hw : ∀ e ∈ entries, ∀ attr, h.resolveKey classId e.1 = .ok attr → P attr.wire)
    (hr : assignEntries h strict classId target entries = .ok result) : result.FieldsIn P := by
  induction entries generalizing target with
  | nil =>
    rw [assignEntries] at hr
    cases hr
    exact hl
  | cons e rest ih =>
    obtain ⟨key, value⟩ := e
    rw [List.forall_mem_cons] at hw
    rcases assignEntries_cons_eq_ok hr with
      ⟨hint, hr⟩ | ⟨attr, typed, tagged, -, hattr, -, htag, hr⟩
    · exact ih (hl.insert_internal hint value) hw.2 hr
    · have htagged : tagged.FieldsIn P := by
        rcases htag with rfl | ⟨_, owner, -, htag⟩
        · exact hl
        · exact fieldsIn_withTag hl htag
      exact ih (htagged.insert (fun _ => hw.1 attr hattr) typed) hw.2 hr

theorem fieldsIn_assign {values : Layout} (hl : target.FieldsIn P)
    (hw : ∀ e ∈ values, ∀ attr, h.resolveKey classId e.1 = .ok attr → P attr.wire)
    (hr : assign h strict classId target values = .ok result) : result.FieldsIn P := by
  rw [assign] at hr
  cases ht : withTag h classId target with
  | error fault =>
    rw [ht] at hr
    cases hr
  | ok tagged =>
    rw [ht] at hr
    exact fieldsIn_assignEntries (fieldsIn_withTag hl ht) hw hr

end Assignment

/-! ## Edits -/

namespace Edit

variable {ρ : Type} [Pattern.Engine ρ]
variable {h : Hierarchy} {strict : Bool} {rootClass : String} {root root' : Layout} {s : Selector}
  {P : String → Prop}

/-- A selector that leads to the root itself is one without patterns. -/
theorem targetClass_of_target_eq_nil {l : Location} (hl : s.locate h rootClass root = .ok l)
    (ht : l.target = []) :
    l.targetClass = some rootClass ∧ ∀ step ∈ s, step.pattern = none := by
  rcases Selector.locate_cases hl with ⟨-, hc, -, ⟨rfl, -⟩ | ⟨step, attr, rfl, hp, -, -⟩⟩ |
    ⟨hne, -⟩ | hbelow
  · exact ⟨hc, by simp⟩
  · exact ⟨hc, List.forall_mem_singleton.2 hp⟩
  · exact absurd ht hne
  · exact absurd ht hbelow.target

/-- A selector that names an attribute of the root itself has one step. -/
theorem resolveKey_of_ownerPath_eq_nil {l : Location} (hl : s.locate h rootClass root = .ok l)
    {attr : ResolvedAttribute} (ha : l.attribute? = some attr) (ho : ownerPath l = []) :
    ∃ step, s = [step] ∧ h.resolveKey rootClass step.key = .ok attr := by
  rcases Selector.locate_cases hl with ⟨-, -, -, ⟨-, hnone⟩ | ⟨step, attr', rfl, -, ha', hr⟩⟩ |
    ⟨-, step, attr', rfl, ha', hr⟩ | hbelow
  · rw [ha] at hnone
    cases hnone
  · rw [ha] at ha'
    cases ha'
    exact ⟨step, rfl, hr⟩
  · rw [ha] at ha'
    cases ha'
    exact ⟨step, rfl, hr⟩
  · exfalso
    rw [ownerPath] at ho
    split at ho
    · next hslot => exact hbelow.parent hslot ho
    · exact hbelow.target ho

theorem fieldsIn_set {values : Layout} (hroot : root.FieldsIn P)
    (hw : (∀ step ∈ s, step.pattern = none) → ∀ e ∈ values, ∀ attr,
      h.resolveKey rootClass e.1 = .ok attr → P attr.wire)
    (hs : set h strict rootClass s values root = .ok () root') : root'.FieldsIn P := by
  obtain ⟨l, classId, target, new, hl, hclass, -, htarget, ha, hr⟩ := set_eq_ok_iff.1 hs
  refine hroot.replace? hr fun hnil => ?_
  obtain ⟨hrootClass, hplain⟩ := targetClass_of_target_eq_nil (locate_of_locateObject hl) hnil
  rw [hclass] at hrootClass
  cases hrootClass
  rw [hnil, Layout.at?_eq_some_iff, Value.at?] at htarget
  cases htarget
  exact Assignment.fieldsIn_assign hroot (hw hplain) ha

theorem fieldsIn_push {value : Value} (hroot : root.FieldsIn P)
    (hw : ∀ step attr, s = [step] → h.resolveKey rootClass step.key = .ok attr → P attr.wire)
    (hp : push h strict rootClass s value root = .ok () root') : root'.FieldsIn P := by
  obtain ⟨l, attr, element, item, owner, items, hl, ha, -, -, howner, -, hr⟩ :=
    push_eq_ok_iff.1 hp
  refine hroot.replace? hr fun hnil => ?_
  obtain ⟨step, hstep, hattr⟩ := resolveKey_of_ownerPath_eq_nil hl ha hnil
  rw [hnil, Layout.at?_eq_some_iff, Value.at?] at howner
  cases howner
  exact hroot.insert (fun _ => hw step attr hstep hattr) _

theorem fieldsIn_withoutSlot {type : AttributeType} {parent new : Layout} {slot : Slot}
    (hp : parent.FieldsIn P) (hw : withoutSlot type parent slot = some new) : new.FieldsIn P := by
  unfold withoutSlot at hw
  split at hw
  · split at hw
    · next i items _ hitems =>
      split at hw
      · cases hw
        exact hp.insert (fun hint => hp _ (Keyed.mem_of_get? hitems) hint) _
      · cases hw
    · cases hw
  · split at hw
    · cases hw
      exact hp.erase slot.key
    · cases hw
  · cases hw

theorem fieldsIn_pull (hroot : root.FieldsIn P) (hp : pull h rootClass s root = .ok () root') :
    root'.FieldsIn P := by
  obtain ⟨l, attr, slot, parent, new, -, -, -, hparent, hw, hr⟩ := pull_eq_ok_iff.1 hp
  refine hroot.replace? hr fun hnil => ?_
  rw [hnil, Layout.at?_eq_some_iff, Value.at?] at hparent
  cases hparent
  exact fieldsIn_withoutSlot hroot hw

end Edit

end TypedDocs
