import TypedDocs.Pattern.Basic
import TypedDocs.Proofs.Edit.Fields
import TypedDocs.Proofs.Hierarchy.Fitting
import TypedDocs.Proofs.Store.Atomicity
import TypedDocs.Proofs.Store.Creation
import TypedDocs.Proofs.Store.Identity
import TypedDocs.Proofs.Store.Origin

/-!
# The fields of stored documents

A call puts into a document only attributes: those that its keys, or the names of its edits through
a view, denote (`Puts`).  So every field of a document is an attribute of the hierarchy.  It is one
of the document's own class, or of a mixin, unless a call has put there an attribute of a class that
the document's class does not extend (`Crosses`): under a key that names this class, or through a
view as a mixin, which is granted for every document.

    s.Puts a id classId r → ¬ s.Crosses id a → s.hierarchy.Fits classId r              (Puts.fits)
    s.Derives a id doc → … → doc.FieldsIn (P (Document.className doc))           (Derives.fieldsIn)
-/

namespace TypedDocs

/-! ## What a call puts into a document -/

namespace Action

/-- A call with ordered values, other than one that loads documents as they are. -/
def Typed (a : Action) : Prop := a.Ordered ∧ ∀ docs, a ≠ .load docs

/-- A call that puts into the document with an id, which is of a class, an attribute with the stored
key of another class which that class does not extend: under a key that names a classifier, or
through a view as a mixin. -/
def Crosses (h : Hierarchy) (id classId wire : String) : Action → Prop
  | .create other values new =>
    new = id ∧ h.concreteClass other = .ok classId ∧ ∃ e ∈ values, h.Borrows classId wire e.1
  | .update other selector values =>
    other = id ∧ (∀ step ∈ selector, step.pattern = none) ∧
      ∃ e ∈ values, h.Borrows classId wire e.1
  | .push other selector _ =>
    other = id ∧ ∃ step, selector = [step] ∧ h.Borrows classId wire step.key
  | .editView other classifier edits =>
    other = id ∧ h.isMixin classifier = true ∧
      ∃ name value r, .set name value ∈ edits ∧ h.resolve classifier name = .ok r ∧
        r.wire = wire ∧ ¬ h.Fits classId r
  | _ => False

end Action

namespace Store

variable {ρ : Type} [Pattern.Engine ρ]

/-- The attributes that a call may put at the root of the document with an id, which is of a
class. -/
inductive Puts (s : Store) : Action → String → String → ResolvedAttribute → Prop where
  | create {classId id concrete : String} {values : Layout} {e : String × Value}
    {r : ResolvedAttribute} (hb : s.hierarchy.concreteClass classId = .ok concrete)
    (he : e ∈ values) (hr : s.hierarchy.resolveKey classId e.1 = .ok r) :
    Puts s (.create classId values id) id concrete r
  | update {id : String} {selector : Selector} {values : Layout} {doc : Document}
    {e : String × Value} {r : ResolvedAttribute} (hid : s.documents.get? id = some doc)
    (hroot : ∀ step ∈ selector, step.pattern = none) (he : e ∈ values)
    (hr : s.hierarchy.resolveKey (Document.className doc) e.1 = .ok r) :
    Puts s (.update id selector values) id (Document.className doc) r
  | push {id : String} {step : SelectorStep} {value : Value} {doc : Document}
    {r : ResolvedAttribute} (hid : s.documents.get? id = some doc)
    (hr : s.hierarchy.resolveKey (Document.className doc) step.key = .ok r) :
    Puts s (.push id [step] value) id (Document.className doc) r
  | edit {id classifier name : String} {edits : List ViewEdit} {value : Value} {doc : Document}
    {r : ResolvedAttribute} (hid : s.documents.get? id = some doc)
    (hgrant : s.hierarchy.isMixin classifier = true ∨
      s.hierarchy.isSubtype (Document.className doc) classifier = true)
    (he : .set name value ∈ edits) (hr : s.hierarchy.resolve classifier name = .ok r) :
    Puts s (.editView id classifier edits) id (Document.className doc) r
  | cast {id mixin name : String} {edits : List ViewEdit} {value : Value} {doc : Document}
    {r : ResolvedAttribute} (hid : s.documents.get? id = some doc)
    (hm : s.hierarchy.Applies (Document.className doc) mixin) (he : .set name value ∈ edits)
    (hr : s.hierarchy.resolve mixin name = .ok r) :
    Puts s (.cast id mixin edits) id (Document.className doc) r

variable {h : Hierarchy} {strict : Bool} {s : Store} {a : Action} {id classId : String}
  {doc : Document} {r : ResolvedAttribute}

theorem Puts.resolve (hp : s.Puts a id classId r) :
    ∃ owner name, s.hierarchy.resolve owner name = .ok r := by
  cases hp with
  | create _ _ hr | update _ _ _ hr | push _ hr => exact Hierarchy.exists_resolve_of_resolveKey hr
  | edit _ _ _ hr | cast _ _ _ hr => exact ⟨_, _, hr⟩

/-- What a call puts under a key for which it does not cross fits the document's class. -/
theorem Puts.fits (hp : s.Puts a id classId r)
    (hc : ¬ a.Crosses s.hierarchy id classId r.wire) : s.hierarchy.Fits classId r := by
  cases hp with
  | create hb he hr =>
    exact Hierarchy.fits_of_resolveKey (.inr hb) (fun hbor => hc ⟨rfl, hb, _, he, hbor⟩) hr
  | update hid hroot he hr =>
    exact Hierarchy.fits_of_resolveKey (.inl rfl) (fun hbor => hc ⟨rfl, hroot, _, he, hbor⟩) hr
  | push hid hr =>
    exact Hierarchy.fits_of_resolveKey (.inl rfl) (fun hbor => hc ⟨rfl, _, rfl, hbor⟩) hr
  | @edit id classifier name edits value doc r hid hgrant he hr =>
    rcases hgrant with hm | hs
    · by_cases hf : s.hierarchy.Fits (Document.className doc) r
      · exact hf
      · exact absurd ⟨rfl, hm, name, value, r, he, hr, rfl, hf⟩ hc
    · exact Hierarchy.fits_of_isSubtype hs hr
  | cast _ hm _ hr =>
    obtain ⟨-, base, hb, hs⟩ := hm
    exact Hierarchy.fits_of_concreteClass hb hs hr

end Store

/-! ## Documents -/

namespace Document

variable {h : Hierarchy} {P : String → Prop} {doc : Document}

theorem fieldsIn_addMixin (hd : Layout.FieldsIn P doc) (mixin : String) :
    Layout.FieldsIn P (doc.addMixin mixin) := by
  rcases addMixin_cases doc mixin with he | ⟨items, he, -⟩
  · rw [he]
    exact hd
  · rw [he]
    exact hd.insert_internal isInternal_mixinsKey _

theorem fieldsIn_edited {classifier : String} {c : Classifier}
    (hc : h.find? classifier = some c) {edits : List ViewEdit} (hd : Layout.FieldsIn P doc)
    (hw : ∀ name value r, .set name value ∈ edits → h.resolve classifier name = .ok r →
      P r.wire) : Layout.FieldsIn P (doc.edited h c edits).2.layout := by
  refine View.applyAll_induction (v := ⟨AccessorTable.of h c, doc⟩) hd ?_ ?_
  · intro name value he a ha layout hl
    obtain ⟨r, hr, hwire⟩ := AccessorTable.resolve_of_accessor? hc ha
    rw [hwire]
    exact hl.insert (fun _ => hw name value r he hr) value
  · intro name a ha layout hl
    exact hl.erase _

/-- A view as a class is granted for the documents of the class only. -/
theorem isSubtype_of_check {classifier : String} {c : Classifier}
    (hc : h.find? classifier = some c) (hg : (AccessorTable.of h c).check h doc = .ok ()) :
    h.isMixin classifier = true ∨ h.isSubtype (className doc) classifier = true := by
  cases hk : c.kind with
  | mixin => exact .inl (Hierarchy.isMixin_eq_true_iff.2 ⟨c, hc, hk⟩)
  | concrete =>
    right
    rw [AccessorTable.check, AccessorTable.of, hk, Hierarchy.id_of_find? hc] at hg
    cases hs : h.isSubtype (className doc) classifier with
    | true => rfl
    | false => simp [hs] at hg

end Document

/-! ## One call -/

namespace Store

section Engine

variable {ρ : Type} [Pattern.Engine ρ]
variable {h : Hierarchy} {strict : Bool} {s : Store} {a : Action} {id : String} {doc : Document}

/-- What the fields of a stored document have with its class, and the attributes that a call puts
into the document have too, its fields have after the call. -/
theorem Derives.fieldsIn {P : String → String → Prop} (hs : s.Identified) (ha : a.Typed)
    (hold : ∀ doc, s.documents.get? id = some doc →
      Layout.FieldsIn (P (Document.className doc)) doc)
    (hputs : ∀ classId r, s.Puts a id classId r → P classId r.wire) (hd : s.Derives a id doc) :
    Layout.FieldsIn (P (Document.className doc)) doc := by
  cases hd with
  | kept hid => exact hold doc hid
  | loaded _ _ => exact absurd rfl (ha.2 _)
  | created hdoc =>
    obtain ⟨hb, hassign, -, -, hclass, -⟩ := newDocument_eq_ok hdoc
    rw [hclass]
    refine Assignment.fieldsIn_assign ?_ (fun e he r hr => hputs _ r (.create hb he hr)) hassign
    intro e he hint
    rw [(internal_blankDocument _ _ _ _ e he).1] at hint
    cases hint
  | @updated id selector values doc _ hid he =>
    have hv := (Layout.ordered_iff.1 ha.1.2).1.nodup
    rw [(Edit.sameIdentity_set (hs id doc hid).tag?_eq hv he).className_eq]
    exact Edit.fieldsIn_set (hold doc hid)
      (fun hroot e hm r hr => hputs _ r (.update hid hroot hm hr)) he
  | @pushed id selector value doc _ hid he =>
    rw [(Edit.sameIdentity_push he (Document.className doc)).className_eq]
    refine Edit.fieldsIn_push (hold doc hid) (fun step r hstep hr => ?_) he
    subst hstep
    exact hputs _ r (.push hid hr)
  | @pulled id selector doc _ hid he =>
    rw [(Edit.sameIdentity_pull he (Document.className doc)).className_eq]
    exact Edit.fieldsIn_pull (hold doc hid) he
  | @edited id classifier edits doc c hid hc hgrant =>
    have hsame : doc.SameIdentity s.hierarchy (Document.className doc) _ :=
      Document.sameIdentity_edited hc doc edits
    rw [hsame.className_eq]
    refine Document.fieldsIn_edited hc (hold doc hid) fun name value r he hr => ?_
    exact hputs _ r (.edit hid (Document.isSubtype_of_check hc hgrant) he hr)
  | @cast id mixin edits doc c hid hm hc =>
    have hsame := (Document.sameIdentity_addMixin (hs id doc hid) hm).trans
      (Document.sameIdentity_edited hc _ edits)
    rw [hsame.className_eq]
    refine Document.fieldsIn_edited hc (Document.fieldsIn_addMixin (hold doc hid) mixin)
      fun name value r he hr => ?_
    exact hputs _ r (.cast hid hm he hr)

/-! ## Runs -/

theorem ReachableBy.identified_of_typed (hs : ReachableBy Action.Typed h strict s) :
    s.Identified := ReachableBy.identified (hs.mono fun _ ha => ha.1)

/-- Every field of a stored document is an attribute of the hierarchy. -/
theorem ReachableBy.fieldsIn_declared (hs : ReachableBy Action.Typed h strict s) :
    ∀ id doc, s.documents.get? id = some doc → Layout.FieldsIn
      (fun key => ∃ owner name r, h.resolve owner name = .ok r ∧ r.wire = key) doc := by
  refine hs.forall_document fun hs ha hold hd => ?_
  refine hd.fieldsIn (P := fun _ key => ∃ owner name r, h.resolve owner name = .ok r ∧
    r.wire = key) hs.identified_of_typed ha (hold _) fun classId r hp => ?_
  obtain ⟨owner, name, hr⟩ := hp.resolve
  rw [hs.hierarchy_eq] at hr
  exact ⟨owner, name, r, hr, rfl⟩

/-- A field of a document that has been spared the calls that cross for its key is an attribute that
fits the document's class. -/
theorem ReachableSparing.fieldsIn_fits {classId wire : String}
    (hs : ReachableSparing Action.Typed (fun a => a.Crosses h id classId wire) h strict id s)
    (hid : s.documents.get? id = some doc) (hclass : Document.className doc = classId) :
    Layout.FieldsIn (fun key => key = wire → ∃ owner name r, h.resolve owner name = .ok r ∧
      r.wire = key ∧ h.Fits classId r) doc := by
  let P (other key : String) : Prop := other = classId → key = wire →
    ∃ owner name r, h.resolve owner name = .ok r ∧ r.wire = key ∧ h.Fits classId r
  have hall : Layout.FieldsIn (P (Document.className doc)) doc := by
    refine hs.forall_document (P := fun doc => Layout.FieldsIn (P (Document.className doc)) doc)
      ?_ doc hid
    intro s a doc hreach ha hcross hold hd
    refine hd.fieldsIn hreach.identified_of_typed ha hold fun other r hp => ?_
    rintro rfl rfl
    obtain ⟨owner, name, hr⟩ := hp.resolve
    rw [← hreach.hierarchy_eq] at hcross
    have hf := hp.fits hcross
    rw [hreach.hierarchy_eq] at hr hf
    exact ⟨owner, name, r, hr, rfl, hf⟩
  intro e he hint hwire
  exact hall e he hint hclass hwire

/-! ## Main statement -/

/-- Every field of a stored document is an attribute of the hierarchy, stored under its key, and
one of a mixin is read under this key for the document's class.  Where the document has been spared
the calls that cross for the key, its class has the field, unless a mixin on the chain of the class
declares another attribute with its name. -/
theorem fields_of_reachable (hs : ReachableBy Action.Typed h strict s)
    (hid : s.documents.get? id = some doc) {key : String} {value : Value}
    (hv : doc.get? key = some value) (hk : Key.isInternal key = false) :
    (∃ owner name r, h.resolve owner name = .ok r ∧ r.wire = key ∧
        (h.isMixin r.owner = true → h.resolveKey (Document.className doc) key = .ok r)) ∧
      (ReachableSparing Action.Typed (fun a => a.Crosses h id (Document.className doc) key) h strict
          id s →
        h.Owns (Document.className doc) key ∨
          ∃ r, h.resolveKey (Document.className doc) key = .ok r ∧ h.isMixin r.owner = true ∧
            h.isSubtype (Document.className doc) r.owner = true ∧ r.name = key) := by
  have hm := Keyed.mem_of_get? hv
  constructor
  · obtain ⟨owner, name, r, hr, rfl⟩ := hs.fieldsIn_declared id doc hid (key, value) hm hk
    exact ⟨owner, name, r, hr, rfl, fun hmixin =>
      Hierarchy.resolveKey_wire_of_isMixin hr hmixin (Document.className doc)⟩
  · intro hw
    obtain ⟨owner, name, r, hr, hwire, hf⟩ := hw.fieldsIn_fits hid rfl (key, value) hm hk rfl
    subst hwire
    exact Hierarchy.owns_of_fits hr hf

end Engine

theorem fields_of_estimated_task :
    ∃ doc, ((empty .tasks true).run
        [.create "Estimate" [("hours", .null), ("labels", .null)] "t1"]).documents.get? "t1" =
          some doc ∧
      (∃ owner name r, Hierarchy.tasks.resolve owner name = .ok r ∧ r.wire = "hours|Estimate" ∧
        (Hierarchy.tasks.isMixin r.owner = true →
          Hierarchy.tasks.resolveKey (Document.className doc) "hours|Estimate" = .ok r)) ∧
      (Hierarchy.tasks.Owns (Document.className doc) "labels" ∨
        ∃ r, Hierarchy.tasks.resolveKey (Document.className doc) "labels" = .ok r ∧
          Hierarchy.tasks.isMixin r.owner = true ∧
          Hierarchy.tasks.isSubtype (Document.className doc) r.owner = true ∧
          r.name = "labels") := by
  have htyped : Action.Typed
      (.create "Estimate" [("hours", .null), ("labels", .null)] "t1") := by
    refine ⟨?_, fun docs he => by cases he⟩
    rw [Action.Ordered, Layout.ordered_iff]
    exact ⟨by decide, by simp [Value.Ordered]⟩
  have hkeys : ∀ e ∈ [("hours", Value.null), ("labels", .null)], Key.parse e.1 = .plain e.1 := by
    simp only [List.forall_mem_cons]
    exact ⟨rfl, rfl, by simp⟩
  have hplain (classId wire : String) : ¬ Action.Crosses .tasks "t1" classId wire
      (.create "Estimate" [("hours", .null), ("labels", .null)] "t1") := by
    rintro ⟨-, -, e, he, name, other, r, hp, -⟩
    rw [hkeys e he] at hp
    cases hp
  obtain ⟨doc, value, other, hdoc, hhours, hlabels⟩ : ∃ doc value other,
      ((empty .tasks true).run
        [.create "Estimate" [("hours", .null), ("labels", .null)] "t1"]).documents.get? "t1" =
          some doc ∧
      doc.get? "hours|Estimate" = some value ∧ doc.get? "labels" = some other :=
    ⟨_, _, _, rfl, rfl, rfl⟩
  have hmixin := fields_of_reachable (ReachableBy.empty.step htyped) hdoc hhours (by decide)
  have hclass := fields_of_reachable (ReachableBy.empty.step htyped) hdoc hlabels (by decide)
  exact ⟨doc, hdoc, hmixin.1, hclass.2 ((ReachableSparing.absent .empty rfl).step htyped
    fun hcross => absurd hcross (hplain _ _))⟩

end Store

/-! ## Fields of other classes -/

/-- Items with a name, labels of items with a name of their own, and a class of labels. -/
def Hierarchy.labelled : Hierarchy where
  classifiers :=
    [("Item", ⟨"Item", .concrete, none, none, [⟨"name", .string⟩]⟩),
     ("Label", ⟨"Label", .mixin, some "Item", none, [⟨"name", .string⟩]⟩),
     ("Tag", ⟨"Tag", .concrete, some "Label", none, []⟩)]
  sorted := by decide
  named := by decide
  grounded := by decide

/-- A document gets a field that its class does not have under a key that names another class,
through a view as a mixin of another class, and through a view as a class whose attribute a mixin
between them declares anew. -/
theorem Store.exists_field_of_other_class :
    (∃ doc value, ((empty .tasks true).run
        [.create "Person" [("name|Task", .string "x")] "p1"]).documents.get? "p1" = some doc ∧
      doc.get? "name" = some value ∧ ¬ Hierarchy.tasks.Owns (Document.className doc) "name") ∧
    (∃ doc value, ((empty .tasks true).run
        [.create "Person" [] "p1", .editView "p1" "Estimate" [.set "labels" .null]]).documents.get?
          "p1" = some doc ∧
      doc.get? "labels" = some value ∧
        ¬ Hierarchy.tasks.Owns (Document.className doc) "labels") ∧
    ∃ doc value, ((empty .labelled true).run
        [.create "Tag" [] "t1", .editView "t1" "Item" [.set "name" .null]]).documents.get? "t1" =
          some doc ∧
      doc.get? "name" = some value ∧
        ¬ Hierarchy.labelled.Owns (Document.className doc) "name" := by
  have hname : ¬ Hierarchy.tasks.Owns "Person" "name" := by
    rintro ⟨r, hr, -⟩
    cases hr
  have hlabels : ¬ Hierarchy.tasks.Owns "Person" "labels" := by
    rintro ⟨r, hr, -⟩
    cases hr
  have htag : ¬ Hierarchy.labelled.Owns "Tag" "name" := by
    rintro ⟨r, hr, hw⟩
    cases hr
    revert hw
    decide
  exact ⟨⟨_, _, rfl, rfl, hname⟩, ⟨_, _, rfl, rfl, hlabels⟩, _, _, rfl, rfl, htag⟩

end TypedDocs
