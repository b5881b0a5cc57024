import TypedDocs.Pattern.Basic
import TypedDocs.Proofs.Edit.Arrays
import TypedDocs.Proofs.Hierarchy.Fitting
import TypedDocs.Proofs.Store.Creation
import TypedDocs.Proofs.Store.Identity
import TypedDocs.Proofs.Store.Origin

/-!
# The arrays of stored documents

In a strict store a document has an array or null where its class has an attribute of arrays.  The
values that are assigned are checked for the attributes that their keys denote, and a key without
the name of a classifier denotes for the document's class what the class itself shows.  Classes
share the stored keys of attributes with one name, so a key that names a classifier may denote an
attribute of another type that is stored under the same key (`Retypes`).  The attributes of mixins
have keys of their own.

    s.Derives a id doc → ¬ a.Retypes s.hierarchy id wire → … → doc.KeepsArray s.hierarchy wire
                                                                            (Derives.keepsArray)
-/

namespace TypedDocs

/-! ## Definitions -/

/-- The key of the entry names a classifier and denotes an attribute with the stored key, which is
none of arrays; and the value is neither an array nor null. -/
def Hierarchy.Retypes (h : Hierarchy) (wire : String) (e : String × Value) : Prop :=
  ∃ name other r, Key.parse e.1 = .qualified name other ∧ h.resolve other name = .ok r ∧
    r.wire = wire ∧ r.type.isArray = false ∧ e.2.isArrayOrNull = false

namespace Action

/-- The call writes no values but by assignment: it loads nothing and edits nothing through a
view. -/
def Assigns : Action → Prop
  | .load _ | .editView _ _ _ => False
  | .cast _ _ edits => edits = []
  | _ => True

/-- The call retypes a stored key at the root of the document with an id. -/
def Retypes (h : Hierarchy) (id wire : String) : Action → Prop
  | .create _ values new => new = id ∧ ∃ e ∈ values, h.Retypes wire e
  | .update other selector values =>
    other = id ∧ (∀ step ∈ selector, step.pattern = none) ∧ ∃ e ∈ values, h.Retypes wire e
  | _ => False

theorem Retypes.exists_entry {h : Hierarchy} {id wire : String} {a : Action}
    (hr : a.Retypes h id wire) : ∃ e, h.Retypes wire e := by
  cases a with
  | create classId values new =>
    obtain ⟨-, e, -, hret⟩ := hr
    exact ⟨e, hret⟩
  | update other selector values =>
    obtain ⟨-, -, e, -, hret⟩ := hr
    exact ⟨e, hret⟩
  | _ => cases hr

end Action

/-- Where an attribute of arrays that the document's class shows is stored under the key, there is
an array or null, if anything. -/
def Document.KeepsArray (h : Hierarchy) (wire : String) (doc : Document) : Prop :=
  ∀ name r, h.resolve (className doc) name = .ok r → r.type.isArray = true → r.wire = wire →
    Layout.ArrayAt wire doc

/-! ## Attributes under one key -/

namespace Hierarchy

variable {h : Hierarchy} {classId id name : String} {r r' : ResolvedAttribute}
  {e : String × Value}

/-- What is assigned where an attribute of arrays is stored is itself under a type of arrays, or is
an array or null, unless it retypes the key. -/
theorem isArray_of_wire_eq (ho : id = classId ∨ h.concreteClass id = .ok classId)
    (hr : h.resolve classId name = .ok r) (ht : r.type.isArray = true)
    (hr' : h.resolveKey id e.1 = .ok r') (hw : r'.wire = r.wire) (hn : ¬ h.Retypes r.wire e) :
    r'.type.isArray = true ∨ e.2.isArrayOrNull = true := by
  cases hp : Key.parse e.1 with
  | plain plain =>
    rw [eq_of_wire_eq_of_plain ho ⟨plain, hp⟩ hr' hr hw]
    exact .inl ht
  | qualified name' other =>
    rw [resolveKey, hp] at hr'
    cases ha : r'.type.isArray with
    | true => exact .inl rfl
    | false =>
      cases hv : e.2.isArrayOrNull with
      | true => exact .inr rfl
      | false => exact absurd ⟨name', other, r', hp, hr', hw, ha, hv⟩ hn

/-- Nothing retypes the key of an attribute of a mixin. -/
theorem not_retypes_of_isMixin (hr : h.resolve id name = .ok r) (hm : h.isMixin r.owner = true)
    (ht : r.type.isArray = true) : ¬ h.Retypes r.wire e := by
  rintro ⟨name', other, r', -, hr', hw, ha, -⟩
  rw [eq_of_wire_eq_of_isMixin hr hm hr' hw, ht] at ha
  cases ha

end Hierarchy

/-! ## One call -/

namespace Store

section Engine

variable {ρ : Type} [Pattern.Engine ρ]
variable {h : Hierarchy} {strict : Bool} {s : Store} {a : Action}
  {id classId concrete name wire : String} {values : Layout} {doc doc' : Document}
  {r : ResolvedAttribute} {value : Value}

theorem keepsArray_newDocument (hstrict : s.strict = true)
    (hn : ∀ e ∈ values, ¬ s.hierarchy.Retypes wire e)
    (hdoc : s.newDocument classId values id = .ok (doc, concrete)) :
    doc.KeepsArray s.hierarchy wire := by
  obtain ⟨hb, ha, -, -, hclass, -⟩ := newDocument_eq_ok hdoc
  rintro name r hr ht rfl
  rw [hclass] at hr
  rw [hstrict] at ha
  have hkey := Hierarchy.isInternal_wire_of_resolve hr
  have hblank : Layout.ArrayAt r.wire (blankDocument s.hierarchy classId concrete id) := by
    intro found hf
    have hint := (internal_blankDocument _ _ _ _ _ (Keyed.mem_of_get? hf)).1
    rw [hkey] at hint
    cases hint
  exact Assignment.arrayAt_assign hkey hblank
    (fun e he attr hattr hw => Hierarchy.isArray_of_wire_eq (.inr hb) hr ht hattr hw (hn e he)) ha

theorem keepsArray_set {selector : Selector} (hd : doc.KeepsArray h wire)
    (hsame : Document.className doc' = Document.className doc)
    (hn : (∀ step ∈ selector, step.pattern = none) → ∀ e ∈ values, ¬ h.Retypes wire e)
    (he : Edit.set h true (Document.className doc) selector values doc = .ok () doc') :
    doc'.KeepsArray h wire := by
  rintro name r hr ht rfl
  rw [hsame] at hr
  exact Edit.arrayAt_set (Hierarchy.isInternal_wire_of_resolve hr) (hd name r hr ht rfl)
    (fun hroot e hm attr hattr hw =>
      Hierarchy.isArray_of_wire_eq (.inl rfl) hr ht hattr hw (hn hroot e hm)) he

/-- What keeps the class of a document and the arrays under a key keeps what the key is for. -/
theorem keepsArray_of_className (hd : doc.KeepsArray h wire)
    (hsame : Document.className doc' = Document.className doc)
    (harrays : Layout.ArrayAt wire doc → Layout.ArrayAt wire doc') : doc'.KeepsArray h wire := by
  intro name r hr ht hw
  rw [hsame] at hr
  exact harrays (hd name r hr ht hw)

theorem arrayAt_addMixin (hd : Layout.ArrayAt wire doc) (mixin : String) :
    Layout.ArrayAt wire (doc.addMixin mixin) := by
  rcases Document.addMixin_cases doc mixin with he | ⟨items, he, -⟩
  · rw [he]
    exact hd
  · rw [he]
    exact hd.insert fun _ => rfl

/-- A call that assigns and does not retype the key leaves a document with arrays where its class
has them. -/
theorem Derives.keepsArray (hs : s.Identified) (hstrict : s.strict = true)
    (ha : a.Ordered ∧ a.Assigns) (hr : ¬ a.Retypes s.hierarchy id wire)
    (hold : ∀ doc, s.documents.get? id = some doc → doc.KeepsArray s.hierarchy wire)
    (hd : s.Derives a id doc) : doc.KeepsArray s.hierarchy wire := by
  cases hd with
  | kept hid => exact hold doc hid
  | loaded _ _ => exact ha.2.elim
  | created hdoc =>
    exact keepsArray_newDocument hstrict (fun e he hret => hr ⟨rfl, e, he, hret⟩) hdoc
  | @updated id selector values doc _ hid he =>
    have hv := (Layout.ordered_iff.1 ha.1.2).1.nodup
    have hsame := Edit.sameIdentity_set (hs id doc hid).tag?_eq hv he
    rw [hstrict] at he
    exact keepsArray_set (hold doc hid) hsame.className_eq
      (fun hroot e hm hret => hr ⟨rfl, hroot, e, hm, hret⟩) he
  | @pushed id selector value doc _ hid he =>
    exact keepsArray_of_className (hold doc hid)
      (Edit.sameIdentity_push he (Document.className doc)).className_eq
      fun harray => Edit.arrayAt_push harray he
  | @pulled id selector doc _ hid he =>
    exact keepsArray_of_className (hold doc hid)
      (Edit.sameIdentity_pull he (Document.className doc)).className_eq
      fun harray => Edit.arrayAt_pull harray he
  | edited _ _ _ => exact ha.2.elim
  | @cast id mixin edits doc c hid hm hc =>
    have hnone : edits = [] := ha.2
    subst hnone
    exact keepsArray_of_className (hold doc hid)
      (Document.sameIdentity_addMixin (hs id doc hid) hm).className_eq
      fun harray => arrayAt_addMixin harray mixin

/-! ## Main statement -/

/-- In a strict store that is only written by assignment, what is stored of an attribute of arrays
which the document's class shows is an array or null: always if a mixin declares the attribute, and
else if the document has been spared the calls that retype its key. -/
theorem arrays_of_reachable (hs : ReachableBy (fun a => a.Ordered ∧ a.Assigns) h true s)
    (hid : s.documents.get? id = some doc)
    (hr : h.resolve (Document.className doc) name = .ok r) (ht : r.type.isArray = true)
    (hv : doc.get? r.wire = some value) :
    (h.isMixin r.owner = true → value.isArrayOrNull = true) ∧
      (ReachableSparing (fun a => a.Ordered ∧ a.Assigns) (fun a => a.Retypes h id r.wire) h true id
        s → value.isArrayOrNull = true) := by
  have hkept (hspared : ReachableSparing (fun a => a.Ordered ∧ a.Assigns)
      (fun a => a.Retypes h id r.wire) h true id s) : value.isArrayOrNull = true := by
    refine hspared.forall_document (P := Document.KeepsArray h r.wire) ?_ doc hid name r hr ht rfl
      value hv
    intro s a doc hs ha hret hold hd
    have hh := hs.hierarchy_eq
    have hordered : Reachable h true s := hs.mono fun _ ha => ha.1
    rw [← hh] at hold hret ⊢
    exact hd.keepsArray hordered.identified hs.strict_eq ha hret hold
  refine ⟨fun hm => hkept (hs.sparing fun a _ hret => ?_), hkept⟩
  obtain ⟨e, hentry⟩ := hret.exists_entry
  exact absurd hentry (Hierarchy.not_retypes_of_isMixin hr hm ht)

end Engine

theorem arrays_of_labelled_task :
    ∃ doc r value, ((empty .tasks true).run
        [.create "Task" [("labels", .array [.string "new"])] "t1"]).documents.get? "t1" =
          some doc ∧
      Hierarchy.tasks.resolve (Document.className doc) "labels" = .ok r ∧ r.type.isArray = true ∧
      doc.get? r.wire = some value ∧ value.isArrayOrNull = true := by
  have ha : Action.Ordered (.create "Task" [("labels", .array [.string "new"])] "t1") ∧
      Action.Assigns (.create "Task" [("labels", .array [.string "new"])] "t1") :=
    ⟨by decide, trivial⟩
  have hplain (wire : String) : ¬ Action.Retypes .tasks "t1" wire
      (.create "Task" [("labels", .array [.string "new"])] "t1") := by
    rintro ⟨-, e, he, name, other, r, hp, -⟩
    rw [List.mem_singleton] at he
    subst he
    cases hp
  obtain ⟨doc, r, value, hid, hr, ht, hv⟩ : ∃ doc r value, ((empty .tasks true).run
        [.create "Task" [("labels", .array [.string "new"])] "t1"]).documents.get? "t1" =
          some doc ∧
      Hierarchy.tasks.resolve (Document.className doc) "labels" = .ok r ∧ r.type.isArray = true ∧
      doc.get? r.wire = some value := ⟨_, _, _, rfl, rfl, rfl, rfl⟩
  have harray := (arrays_of_reachable (ReachableBy.empty.step ha) hid hr ht hv).2
    ((ReachableSparing.absent .empty rfl).step ha fun hret => absurd hret (hplain r.wire))
  exact ⟨doc, r, value, hid, hr, ht, hv, harray⟩

end Store

/-! ## A name that is declared anew -/

/-- Items with a name, notes on items, and series of items that declare the name as an array. -/
def Hierarchy.series : Hierarchy where
  classifiers :=
    [("Item", ⟨"Item", .concrete, none, none, [⟨"name", .string⟩]⟩),
     ("Note", ⟨"Note", .mixin, some "Item", none, []⟩),
     ("Series", ⟨"Series", .concrete, some "Item", none, [⟨"name", .arrayOf .string⟩]⟩)]
  sorted := by decide
  named := by decide
  grounded := by decide

/-- A strict store holds a text under an attribute of arrays that has been given for a mixin, for
which the name is that of the items. -/
theorem Store.exists_text_under_arrays :
    ∃ doc r, ((empty .series true).run
        [.create "Series" [("name|Note", .string "x")] "s1"]).documents.get? "s1" = some doc ∧
      Hierarchy.series.resolve (Document.className doc) "name" = .ok r ∧
      r.type = .arrayOf .string ∧ doc.get? r.wire = some (.string "x") :=
  ⟨_, _, rfl, rfl, rfl, rfl⟩

end TypedDocs
