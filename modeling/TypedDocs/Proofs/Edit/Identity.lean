import TypedDocs.Proofs.Assignment.Overlay
import TypedDocs.Proofs.Edit.Outcome
import TypedDocs.Proofs.Selector.Reach

/-!
# Edits and the identity of a document

The fields that begin with an underscore are the identity of a document.  `push` and `pull` change
none of them at the root, and `set` only those that its values name, which are neither the id nor
the class; mixins that it sets are applicable ones.

    push … root = .ok () root' → Key.isInternal k → root'.get? k = root.get? k     (get?_push)
    pull … root = .ok () root' → Key.isInternal k → root'.get? k = root.get? k     (get?_pull)
    set … root = .ok () root' → SameIdentity h rootClass root root'               (sameIdentity_set)
-/

namespace TypedDocs

/-! ## Definition -/

/-- The second document has the id and the class of the first, and its mixins, or such as can be
applied to the class. -/
structure Document.SameIdentity (h : Hierarchy) (classId : String) (doc doc' : Document) :
    Prop where
  id : doc'.get? Document.idKey = doc.get? Document.idKey
  tag : doc'.get? Document.classKey = doc.get? Document.classKey
  mixins : doc'.get? Document.mixinsKey = doc.get? Document.mixinsKey ∨
    ∃ value, doc'.get? Document.mixinsKey = some value ∧ h.checkMixins classId value = .ok ()

/-- What keeps all internal keys keeps the identity. -/
theorem Document.SameIdentity.of_internal {h : Hierarchy} {classId : String}
    {doc doc' : Document} (hk : ∀ key, Key.isInternal key = true → doc'.get? key = doc.get? key) :
    SameIdentity h classId doc doc' where
  id := hk _ isInternal_idKey
  tag := hk _ isInternal_classKey
  mixins := .inl (hk _ isInternal_mixinsKey)

namespace Edit

variable {ρ : Type} [Pattern.Engine ρ]
variable {h : Hierarchy} {strict : Bool} {rootClass : String} {root root' : Layout} {s : Selector}
  {key : String}

/-! ## Replacements -/

/-- A replacement outside the internal keys changes one of them only where it is made at the root
and changes it there. -/
theorem get?_replace? {path : Path} {old new : Layout} (hp : path.Outside)
    (ho : root.at? path = some old) (hr : root.replace? path new = some root')
    (hk : Key.isInternal key = true) (hroot : path = [] → new.get? key = old.get? key) :
    root'.get? key = root.get? key := by
  cases path with
  | nil =>
    rw [Layout.replace?_nil] at hr
    cases hr
    rw [hroot rfl]
    rw [Layout.at?_eq_some_iff, Value.at?] at ho
    cases ho
    rfl
  | cons step rest =>
    obtain ⟨k, value, rfl, rfl⟩ := Layout.replace?_cons hr
    exact Keyed.get?_insert_of_ne root value (Key.ne_of_isInternal hk (hp k rest rfl))

/-! ## Push and pull -/

theorem outside_ownerPath {l : Location} (hl : l.Outside) : (ownerPath l).Outside := by
  rw [ownerPath]
  split
  · exact hl.parent
  · exact hl.target

theorem get?_push {value : Value} (hp : push h strict rootClass s value root = .ok () root')
    (hk : Key.isInternal key = true) : root'.get? key = root.get? key := by
  obtain ⟨l, attr, element, item, owner, items, hl, ha, -, -, ho, -, hr⟩ := push_eq_ok_iff.1 hp
  have hout := Selector.outside_of_locate hl
  refine get?_replace? (outside_ownerPath hout) ho hr hk fun _ => ?_
  exact Keyed.get?_insert_of_ne owner _ (Key.ne_of_isInternal hk (hout.attr attr ha))

theorem sameIdentity_push {value : Value}
    (hp : push h strict rootClass s value root = .ok () root') (classId : String) :
    Document.SameIdentity h classId root root' := .of_internal fun _ hk => get?_push hp hk

theorem locate_of_locateObject {l : Location} (hl : locateObject h rootClass root s = .ok l) :
    s.locate h rootClass root = .ok l := by
  rw [locateObject] at hl
  split at hl
  · cases hl
  · exact hl

theorem get?_withoutSlot {type : AttributeType} {parent new : Layout} {slot : Slot}
    (hw : withoutSlot type parent slot = some new) (hne : key ≠ slot.key) :
    new.get? key = parent.get? key := by
  unfold withoutSlot at hw
  split at hw
  · split at hw
    · split at hw
      · cases hw
        exact Keyed.get?_insert_of_ne parent _ hne
      · cases hw
    · cases hw
  · split at hw
    · cases hw
      exact Keyed.get?_erase_of_ne parent hne
    · cases hw
  · cases hw

theorem get?_pull (hp : pull h rootClass s root = .ok () root')
    (hk : Key.isInternal key = true) : root'.get? key = root.get? key := by
  obtain ⟨l, attr, slot, parent, new, hl, -, hslot, ho, hw, hr⟩ := pull_eq_ok_iff.1 hp
  have hout := Selector.outside_of_locate (locate_of_locateObject hl)
  refine get?_replace? hout.parent ho hr hk fun _ => ?_
  exact get?_withoutSlot hw (Key.ne_of_isInternal hk (hout.slot slot hslot))

theorem sameIdentity_pull (hp : pull h rootClass s root = .ok () root') (classId : String) :
    Document.SameIdentity h classId root root' := .of_internal fun _ hk => get?_pull hp hk

/-! ## Set -/

theorem checkIdentity_eq_ok {target : Path} {values : Layout}
    (hc : checkIdentity h rootClass target values = .ok ()) :
    values.get? Document.idKey = none ∧ values.get? Document.classKey = none ∧
      ∀ value, values.get? Document.mixinsKey = some value →
        target = [] ∧ h.checkMixins rootClass value = .ok () := by
  unfold checkIdentity at hc
  cases hid : values.get? Document.idKey with
  | some value =>
    simp [Keyed.contains, hid] at hc
  | none =>
    cases hclass : values.get? Document.classKey with
    | some value =>
      simp [Keyed.contains, hid, hclass] at hc
    | none =>
      refine ⟨rfl, rfl, ?_⟩
      intro value hv
      cases target with
      | nil =>
        refine ⟨rfl, ?_⟩
        simpa [Keyed.contains, hid, hclass, hv] using hc
      | cons step rest =>
        simp [Keyed.contains, hid, hclass, hv] at hc

/-- Under an internal key of the root `set` puts nothing but what its values have there, and that
only when the root is the target. -/
theorem get?_set {tag : String} (ht : Document.tag? root = some tag) {values : Layout}
    (hv : (values.map Prod.fst).Nodup) (hs : set h strict rootClass s values root = .ok () root')
    (hk : Key.isInternal key = true) :
    root'.get? key = root.get? key ∨
      ∃ value, values.get? key = some value ∧ root'.get? key = some value := by
  obtain ⟨l, classId, target, new, hl, -, hcheck, ho, ha, hr⟩ := set_eq_ok_iff.1 hs
  have hout := Selector.outside_of_locate (locate_of_locateObject hl)
  have htag := Assignment.keepsTag_of_get? (checkIdentity_eq_ok hcheck).2.1
  cases hpath : l.target with
  | cons step rest =>
    exact .inl (get?_replace? hout.target ho hr hk fun he => by rw [hpath] at he; cases he)
  | nil =>
    rw [hpath, Layout.replace?_nil] at hr
    rw [hpath, Layout.at?_eq_some_iff, Value.at?] at ho
    cases hr
    cases ho
    rw [Assignment.assign, Assignment.withTag_of_tag? ht] at ha
    have hget := Assignment.get?_assignEntries_of_isInternal ht htag hv ha hk
    rw [hget]
    cases hval : values.get? key with
    | none => exact .inl rfl
    | some value => exact .inr ⟨value, rfl, rfl⟩

theorem sameIdentity_set {tag : String} (ht : Document.tag? root = some tag) {values : Layout}
    (hv : (values.map Prod.fst).Nodup)
    (hs : set h strict rootClass s values root = .ok () root') :
    Document.SameIdentity h rootClass root root' := by
  obtain ⟨l, classId, target, new, -, -, hcheck, -, -, -⟩ := set_eq_ok_iff.1 hs
  obtain ⟨hid, hclass, hmixins⟩ := checkIdentity_eq_ok hcheck
  have hget {key : String} (hk : Key.isInternal key = true) := get?_set ht hv hs hk
  refine ⟨?_, ?_, ?_⟩
  · rcases hget Document.isInternal_idKey with he | ⟨value, hval, -⟩
    · exact he
    · rw [hid] at hval
      cases hval
  · rcases hget Document.isInternal_classKey with he | ⟨value, hval, -⟩
    · exact he
    · rw [hclass] at hval
      cases hval
  · rcases hget Document.isInternal_mixinsKey with he | ⟨value, hval, he⟩
    · exact .inl he
    · exact .inr ⟨value, he, (hmixins value hval).2⟩

end Edit

end TypedDocs
