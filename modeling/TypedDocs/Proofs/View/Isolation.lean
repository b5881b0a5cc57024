import TypedDocs.Proofs.View.Lookups

/-!
# Views do not disturb each other

All views of a document share its layout.  Two attributes are one field of it when they have one
name and one classifier declares both, or two classes do; other attributes are stored apart.  So what
is written through a view is read through another one in the same field, and only there.

    h.resolve id₁ a = .ok r → h.resolve id₂ b = .ok s → (r.wire = s.wire ↔ r.SameField h s)
                                                                                     (wire_eq_iff)
    … → w.get b = if r.SameField h s then .ok written else w₂.get b                (edit_isolated)
-/

namespace TypedDocs

/-! ## Definitions -/

/-- The attributes are one field of a document: they have one name, and one classifier or two
classes declare them. -/
def ResolvedAttribute.SameField (h : Hierarchy) (r s : ResolvedAttribute) : Prop :=
  r.name = s.name ∧ (r.owner = s.owner ∨ h.isMixin r.owner = false ∧ h.isMixin s.owner = false)

instance (h : Hierarchy) (r s : ResolvedAttribute) : Decidable (r.SameField h s) :=
  inferInstanceAs (Decidable (_ ∧ _))

/-- The edit leaves a value under a name, or nothing. -/
inductive ViewEdit.Writes : ViewEdit → String → Option Value → Prop where
  | set {name : String} {value : Value} : Writes (.set name value) name (some value)
  | remove {name : String} : Writes (.remove name) name none

/-! ## Fields -/

namespace Hierarchy

variable {h : Hierarchy} {id id' name name' : String} {r s : ResolvedAttribute}

/-- Attributes are stored under one key exactly when they are one field. -/
theorem wire_eq_iff (hr : h.resolve id name = .ok r) (hs : h.resolve id' name' = .ok s) :
    r.wire = s.wire ↔ r.SameField h s := by
  have hkey : r.wire = s.wire ↔ r.key = s.key := by
    constructor
    · intro he
      rw [← parse_wire_of_resolve hr, ← parse_wire_of_resolve hs, he]
    · intro he
      rw [ResolvedAttribute.wire, ResolvedAttribute.wire, he]
  rw [hkey, ResolvedAttribute.SameField, name_of_resolve hr, name_of_resolve hs]
  rcases key_of_resolve hr with ⟨hm, hk⟩ | ⟨hm, hk⟩ <;>
    rcases key_of_resolve hs with ⟨hm', hk'⟩ | ⟨hm', hk'⟩
  · simp [hk, hk', hm, hm']
  · -- A mixin is no class, so the owners differ.
    have hne : r.owner ≠ s.owner := by
      intro he
      rw [he, hm'] at hm
      cases hm
    simp [hk, hk', hm', hne]
  · have hne : r.owner ≠ s.owner := by
      intro he
      rw [he, hm'] at hm
      cases hm
    simp [hk, hk', hm, hne]
  · simp [hk, hk', hm]

end Hierarchy

/-! ## Views of a document -/

theorem Kept.view_eq_ok_iff {h : Hierarchy} {calls : List Lookup} {doc : Document} {id : String}
    {w : View} :
    (after h calls).view h doc id = .ok w ↔
      ∃ c, h.find? id = some c ∧ (AccessorTable.of h c).check h doc = .ok () ∧
        w = ⟨AccessorTable.of h c, doc⟩ :=
  Views.view_eq_ok_iff (holds_after h calls).views

/-- A view is granted by the class of the document only. -/
theorem AccessorTable.check_congr {t : AccessorTable} {h : Hierarchy} {doc doc' : Document}
    (hc : Document.className doc' = Document.className doc) : t.check h doc' = t.check h doc := by
  rw [check, check, hc]

namespace View

variable {h : Hierarchy} {id name : String} {c : Classifier} {r : ResolvedAttribute}
  {doc : Document}

theorem require_of (hc : h.find? id = some c) (hr : h.resolve id name = .ok r) :
    (AccessorTable.of h c).require name = .ok ⟨r.key, r.owner⟩ := by
  rw [AccessorTable.require, AccessorTable.accessor?_of h hc, hr]
  rfl

theorem get_of (hc : h.find? id = some c) (hr : h.resolve id name = .ok r) (doc : Document) :
    get ⟨AccessorTable.of h c, doc⟩ name = .ok (doc.get? r.wire) := by
  rw [get, require_of hc hr]
  rfl

/-- An edit that writes a visible name gives what the name had and changes its field only. -/
theorem apply_of {e : ViewEdit} {written : Option Value} (hc : h.find? id = some c)
    (hr : h.resolve id name = .ok r) (he : e.Writes name written) (doc : Document) :
    (apply ⟨AccessorTable.of h c, doc⟩ e).1 = .ok (doc.get? r.wire) ∧
      ∀ key, (apply ⟨AccessorTable.of h c, doc⟩ e).2.layout.get? key =
        if key = r.wire then written else doc.get? key := by
  cases he with
  | set =>
    rw [apply, set, require_of hc hr]
    refine ⟨rfl, ?_⟩
    intro key
    exact Keyed.get?_insert doc r.wire key _
  | remove =>
    rw [apply, remove, require_of hc hr]
    refine ⟨rfl, ?_⟩
    intro key
    exact Keyed.get?_erase doc r.wire key

/-! ## Main statement -/

variable {calls₁ calls₂ : List Lookup} {id₁ id₂ a b : String} {w₁ w₂ : View}
  {s : ResolvedAttribute} {e : ViewEdit} {written : Option Value}

/-- An edit through a view gives what the view has read, and changes the key of its field only, none
of the keys of the identity.  Any view that was granted is granted again, and reads in the same field
what was written, or nothing where it was taken away, and in every other field what it has read
before. -/
theorem edit_isolated (hw₁ : (Kept.after h calls₁).view h doc id₁ = .ok w₁)
    (hw₂ : (Kept.after h calls₂).view h doc id₂ = .ok w₂) (ha : h.resolve id₁ a = .ok r)
    (hb : h.resolve id₂ b = .ok s) (he : e.Writes a written) :
    ∃ old, w₁.get a = .ok old ∧ (w₁.apply e).1 = .ok old ∧
      (∀ key, key ≠ r.wire → (w₁.apply e).2.layout.get? key = doc.get? key) ∧
      (∀ key ∈ [Document.idKey, Document.classKey, Document.mixinsKey],
        (w₁.apply e).2.layout.get? key = doc.get? key) ∧
      ∀ calls, ∃ w, (Kept.after h calls).view h (w₁.apply e).2.layout id₂ = .ok w ∧
        w.get b = if r.SameField h s then .ok written else w₂.get b := by
  obtain ⟨c₁, hc₁, -, rfl⟩ := Kept.view_eq_ok_iff.1 hw₁
  obtain ⟨c₂, hc₂, hgrant, rfl⟩ := Kept.view_eq_ok_iff.1 hw₂
  obtain ⟨hresult, hlayout⟩ := apply_of hc₁ ha he doc
  have hother : ∀ key, key ≠ r.wire →
      (apply ⟨AccessorTable.of h c₁, doc⟩ e).2.layout.get? key = doc.get? key := by
    intro key hne
    rw [hlayout, if_neg hne]
  have hidentity : ∀ key, Key.isInternal key = true →
      (apply ⟨AccessorTable.of h c₁, doc⟩ e).2.layout.get? key = doc.get? key := by
    intro key hk
    exact hother key (Key.ne_of_isInternal hk (Hierarchy.isInternal_wire_of_resolve ha))
  refine ⟨doc.get? r.wire, get_of hc₁ ha doc, hresult, hother, ?identity, ?others⟩
  case identity =>
    have hinternal : ∀ key ∈ [Document.idKey, Document.classKey, Document.mixinsKey],
        Key.isInternal key = true := by decide
    intro key hk
    exact hidentity key (hinternal key hk)
  case others =>
    intro calls
    have hclass := hidentity Document.classKey Document.isInternal_classKey
    have hcheck : Document.className (apply ⟨AccessorTable.of h c₁, doc⟩ e).2.layout =
        Document.className doc := by
      rw [Document.className, Document.className, Document.tag?, Document.tag?, hclass]
    rw [← AccessorTable.check_congr hcheck] at hgrant
    refine ⟨_, Kept.view_eq_ok_iff.2 ⟨c₂, hc₂, hgrant, rfl⟩, ?_⟩
    rw [get_of hc₂ hb, get_of hc₂ hb, hlayout]
    have hfield := Hierarchy.wire_eq_iff ha hb
    by_cases hsame : r.SameField h s
    · rw [if_pos (hfield.2 hsame).symm, if_pos hsame]
    · have hne : s.wire ≠ r.wire := fun heq => hsame (hfield.1 heq.symm)
      rw [if_neg hne, if_neg hsame]

/-- A task with an estimate, both of which have a name. -/
def estimatedTask : Document :=
  [("_class", .string "Task"), ("_id", .string "t1"), ("_mixins", .array [.string "Estimate"]),
    ("name", .string "task"), ("name|Estimate", .string "estimate")]

/-- The name that is written through an estimate is not that of the task, but the labels are. -/
theorem edit_isolated_estimate :
    ∃ w₁ w₂, (Kept.after .tasks []).view .tasks estimatedTask "Estimate" = .ok w₁ ∧
      (Kept.after .tasks []).view .tasks estimatedTask "Task" = .ok w₂ ∧
      (∃ w, (Kept.after .tasks []).view .tasks (w₁.apply (.set "name" .null)).2.layout "Task" =
        .ok w ∧ w.get "name" = .ok (some (.string "task"))) ∧
      ∃ w, (Kept.after .tasks []).view .tasks (w₁.apply (.set "labels" .null)).2.layout "Task" =
        .ok w ∧ w.get "labels" = .ok (some .null) := by
  have hw₁ : (Kept.after .tasks []).view .tasks estimatedTask "Estimate" =
      .ok ⟨AccessorTable.of .tasks _, estimatedTask⟩ := rfl
  have hw₂ : (Kept.after .tasks []).view .tasks estimatedTask "Task" =
      .ok ⟨AccessorTable.of .tasks _, estimatedTask⟩ := rfl
  have hestimate : Hierarchy.tasks.resolve "Estimate" "name" =
      .ok ⟨⟨"name", .string⟩, "Estimate", .qualified "name" "Estimate"⟩ := rfl
  have htask : Hierarchy.tasks.resolve "Task" "name" =
      .ok ⟨⟨"name", .string⟩, "Task", .plain "name"⟩ := rfl
  have hlabels : ∀ id ∈ ["Estimate", "Task"], Hierarchy.tasks.resolve id "labels" =
      .ok ⟨⟨"labels", .arrayOf .string⟩, "Task", .plain "labels"⟩ := by decide
  obtain ⟨_, -, -, -, -, hname⟩ :=
    edit_isolated hw₁ hw₂ hestimate htask (.set : ViewEdit.Writes (.set "name" .null) _ _)
  obtain ⟨_, -, -, -, -, hlabel⟩ :=
    edit_isolated hw₁ hw₂ (hlabels "Estimate" (by decide)) (hlabels "Task" (by decide))
      (.set : ViewEdit.Writes (.set "labels" .null) _ _)
  obtain ⟨w, hw, hread⟩ := hname []
  obtain ⟨w', hw', hread'⟩ := hlabel []
  refine ⟨_, _, hw₁, hw₂, ⟨w, hw, ?_⟩, w', hw', ?_⟩
  · rw [hread, if_neg (by decide)]
    rfl
  · rw [hread', if_pos (by decide)]

end View

end TypedDocs
