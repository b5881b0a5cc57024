import TypedDocs.Proofs.Assignment.Order
import TypedDocs.Proofs.Edit.Fields

/-!
# Edits and the arrays of a document

Strict assignment leaves an array or null where an attribute of arrays is stored, if no attribute of
another type is written under the same key.  `push` writes nothing but arrays, and `pull` nothing
else, so what is under a key of the root stays an array or null:

    typedValue h true name (.arrayOf t) v = .ok w → w.isArrayOrNull       (isArrayOrNull_of_isArray)
    set … root = .ok () root' → root.ArrayAt key → … → root'.ArrayAt key              (arrayAt_set)
    push … root = .ok () root' → root.ArrayAt key → root'.ArrayAt key                (arrayAt_push)
    pull … root = .ok () root' → root.ArrayAt key → root'.ArrayAt key                (arrayAt_pull)
-/

namespace TypedDocs

/-! ## Definitions -/

/-- Whether the value is an array or null. -/
def Value.isArrayOrNull : Value → Bool
  | .array _ | .null => true
  | _ => false

/-- What is under the key, if there is anything, is an array or null. -/
def Layout.ArrayAt (key : String) (l : Layout) : Prop :=
  ∀ value, l.get? key = some value → value.isArrayOrNull = true

/-! ## Layouts -/

/-- A replacement of an object inside an array leaves an array. -/
theorem Value.isArrayOrNull_replace? {v v' new : Value} {path : Path} {old : Layout}
    (hv : v.isArrayOrNull = true) (ho : v.at? path = some (.object old))
    (hr : v.replace? path new = some v') : v'.isArrayOrNull = true := by
  cases path with
  | nil =>
    rw [Value.at?] at ho
    cases ho
    cases hv
  | cons step rest =>
    cases v with
    | array items =>
      cases step with
      | field key => simp [Value.replace?] at hr
      | index i =>
        simp only [Value.replace?, bind, Option.bind_eq_some_iff] at hr
        obtain ⟨item, -, inner, -, he⟩ := hr
        cases he
        rfl
    | null => simp [Value.replace?] at hr
    | _ => cases hv

namespace Layout.ArrayAt

variable {key : String} {l : Layout}

theorem insert (hl : l.ArrayAt key) {other : String} {value : Value}
    (hv : other = key → value.isArrayOrNull = true) :
    Layout.ArrayAt key (l.insert other value) := by
  intro found hf
  rw [Keyed.get?_insert] at hf
  split at hf
  · next he =>
    cases hf
    exact hv he.symm
  · exact hl found hf

theorem erase (hl : l.ArrayAt key) (other : String) : Layout.ArrayAt key (l.erase other) := by
  intro found hf
  rw [Keyed.get?_erase] at hf
  split at hf
  · cases hf
  · exact hl found hf

/-- An object that is replaced below the root stands under another key, or in an array. -/
theorem replace? {root root' old new : Layout} {path : Path} (hroot : root.ArrayAt key)
    (ho : root.at? path = some old) (hr : root.replace? path new = some root')
    (hn : path = [] → new.ArrayAt key) : root'.ArrayAt key := by
  cases path with
  | nil =>
    rw [Layout.replace?_nil] at hr
    cases hr
    exact hn rfl
  | cons step rest =>
    rw [Layout.at?_eq_some_iff] at ho
    rw [Layout.replace?_eq_some_iff] at hr
    cases step with
    | index i => simp [Value.replace?] at hr
    | field other =>
      simp only [Value.at?, Option.bind_eq_some_iff] at ho
      simp only [Value.replace?, bind, Option.bind_eq_some_iff] at hr
      obtain ⟨value, hvalue, hinner⟩ := ho
      obtain ⟨value', hvalue', inner, hreplaced, he⟩ := hr
      rw [hvalue] at hvalue'
      cases hvalue'
      cases he
      refine hroot.insert fun hk => ?_
      subst hk
      exact Value.isArrayOrNull_replace? (hroot value hvalue) hinner hreplaced

end Layout.ArrayAt

/-! ## Assignment -/

namespace Assignment

variable {h : Hierarchy} {strict : Bool} {classId name : String} {type : AttributeType}
  {v w : Value} {target result values : Layout} {key : String}

/-- An array stays an array under every type, and null stays null. -/
theorem isArrayOrNull_typedValue (hv : v.isArrayOrNull = true)
    (ht : typedValue h strict name type v = .ok w) : w.isArrayOrNull = true := by
  cases v with
  | null =>
    rw [typedValue] at ht
    cases ht
    rfl
  | array items =>
    unfold typedValue at ht
    split at ht
    · next c =>
      cases hb : embedItems h strict c items with
      | error fault =>
        rw [hb] at ht
        cases ht
      | ok built =>
        rw [hb] at ht
        cases ht
        rfl
    · cases ht
      rfl
  | _ => cases hv

/-- Under a type of arrays strict assignment refuses everything but arrays and null. -/
theorem isArrayOrNull_of_isArray (ha : type.isArray = true)
    (ht : typedValue h true name type v = .ok w) : w.isArrayOrNull = true := by
  cases type with
  | arrayOf element =>
    cases v with
    | null | array items => exact isArrayOrNull_typedValue rfl ht
    | bool b | number n | string s | object fields => simp [typedValue] at ht
  | _ => cases ha

theorem arrayAt_assign (hkey : Key.isInternal key = false) (hl : target.ArrayAt key)
    (hw : ∀ e ∈ values, ∀ attr, h.resolveKey classId e.1 = .ok attr → attr.wire = key →
      attr.type.isArray = true ∨ e.2.isArrayOrNull = true)
    (ha : assign h true classId target values = .ok result) : result.ArrayAt key := by
  intro found hf
  rcases get?_assign_cases ha hkey hf with hkept | ⟨e, he, hwrites⟩
  · exact hl found hkept
  · cases hwrites with
    | internal hint =>
      rw [hkey] at hint
      cases hint
    | typed _ hattr htyped =>
      rcases hw _ he _ hattr rfl with harray | hgiven
      · exact isArrayOrNull_of_isArray harray htyped
      · exact isArrayOrNull_typedValue hgiven htyped

end Assignment

/-! ## Edits -/

namespace Edit

variable {ρ : Type} [Pattern.Engine ρ]
variable {h : Hierarchy} {strict : Bool} {rootClass key : String} {root root' : Layout}
  {s : Selector}

theorem arrayAt_set {values : Layout} (hkey : Key.isInternal key = false)
    (hroot : root.ArrayAt key)
    (hw : (∀ step ∈ s, step.pattern = none) → ∀ e ∈ values, ∀ attr,
      h.resolveKey rootClass e.1 = .ok attr → attr.wire = key →
      attr.type.isArray = true ∨ e.2.isArrayOrNull = true)
    (hs : set h true rootClass s values root = .ok () root') : root'.ArrayAt key := by
  obtain ⟨l, classId, target, new, hl, hclass, -, htarget, ha, hr⟩ := set_eq_ok_iff.1 hs
  refine hroot.replace? htarget hr fun hnil => ?_
  obtain ⟨hrootClass, hplain⟩ := targetClass_of_target_eq_nil (locate_of_locateObject hl) hnil
  rw [hclass] at hrootClass
  cases hrootClass
  rw [hnil, Layout.at?_eq_some_iff, Value.at?] at htarget
  cases htarget
  exact Assignment.arrayAt_assign hkey hroot (hw hplain) ha

theorem arrayAt_push {value : Value} (hroot : root.ArrayAt key)
    (hp : push h strict rootClass s value root = .ok () root') : root'.ArrayAt key := by
  obtain ⟨l, attr, element, item, owner, items, -, -, -, -, howner, -, hr⟩ := push_eq_ok_iff.1 hp
  refine hroot.replace? howner hr fun hnil => ?_
  rw [hnil, Layout.at?_eq_some_iff, Value.at?] at howner
  cases howner
  exact hroot.insert fun _ => rfl

theorem arrayAt_withoutSlot {type : AttributeType} {parent new : Layout} {slot : Slot}
    (hp : parent.ArrayAt key) (hw : withoutSlot type parent slot = some new) :
    new.ArrayAt key := by
  unfold withoutSlot at hw
  split at hw
  · split at hw
    · split at hw
      · cases hw
        exact hp.insert fun _ => rfl
      · cases hw
    · cases hw
  · split at hw
    · cases hw
      exact hp.erase slot.key
    · cases hw
  · cases hw

theorem arrayAt_pull (hroot : root.ArrayAt key) (hp : pull h rootClass s root = .ok () root') :
    root'.ArrayAt key := by
  obtain ⟨l, attr, slot, parent, new, -, -, -, hparent, hw, hr⟩ := pull_eq_ok_iff.1 hp
  refine hroot.replace? hparent hr fun hnil => ?_
  rw [hnil, Layout.at?_eq_some_iff, Value.at?] at hparent
  cases hparent
  exact arrayAt_withoutSlot hroot hw

end Edit

end TypedDocs
