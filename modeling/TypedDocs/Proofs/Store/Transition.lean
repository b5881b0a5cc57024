import TypedDocs.Pattern.Basic
import TypedDocs.Store.Run
import TypedDocs.Proofs.Edit.Outcome
import TypedDocs.Proofs.View.Tables

/-!
# What a call does

A call does one of eleven things to the documents and the index of a store: `Performs` lists them,
each with what the call gives.  A call that is refused leaves the documents.

    s.views.Faithful s.hierarchy → s.Performs a (s.step a) (s.perform a).result   (performs_perform)

The hierarchy and the strictness of a store never change, and its tables stay faithful
(`sameSetting_step`), so in a reachable store every call does one of these things
(`ReachableBy.performs`).
-/

namespace TypedDocs

/-! ## Definitions -/

/-- The document after edits through the table of a classifier, and the results of the edits. -/
def Document.edited (h : Hierarchy) (c : Classifier) (doc : Document) (edits : List ViewEdit) :
    Store.ViewResults :=
  View.applyAll ⟨AccessorTable.of h c, doc⟩ edits

namespace Store

section Engine

variable {ρ : Type} [Pattern.Engine ρ]

/-- The index of a store is left, or built. -/
def KeepsIndex (s s' : Store) : Prop := s'.index = s.index ∨ s'.index = some (indexOf s.documents)

/-- What a call gives and does to the documents and the index. -/
inductive Performs (s : Store) : Action → Store → Except Fault Action.Result → Prop where
  | refused {a : Action} {s' : Store} {fault : Fault} (hd : s'.documents = s.documents)
    (hi : s'.index = s.index) : Performs s a s' (.error fault)
  | loaded {docs : List Document} {s' : Store}
    (hd : stage s.hierarchy s.documents docs = .ok s'.documents) (hi : s'.index = none) :
    Performs s (.load docs) s' (.ok (.loaded docs.length))
  | created {classId id concrete : String} {values : Layout} {doc : Document} {s' : Store}
    (hid : s.documents.get? id = none)
    (hdoc : s.newDocument classId values id = .ok (doc, concrete))
    (hd : s'.documents = s.documents.insert id doc) (hi : s'.index = none) :
    Performs s (.create classId values id) s' (.ok (.created doc))
  | searched {classId : String} {query : Layout} {s' : Store}
    {result : Except Fault Action.Result} (hd : s'.documents = s.documents)
    (hi : s.KeepsIndex s') : Performs s (.find classId query) s' result
  | updated {id : String} {selector : Selector} {values : Layout} {doc doc' : Document}
    {s' : Store} (hid : s.documents.get? id = some doc)
    (he : Edit.set s.hierarchy s.strict (Document.className doc) selector values doc = .ok () doc')
    (hd : s'.documents = s.documents.insert id doc') (hi : s'.index = s.index) :
    Performs s (.update id selector values) s' (.ok .done)
  | pushed {id : String} {selector : Selector} {value : Value} {doc doc' : Document} {s' : Store}
    (hid : s.documents.get? id = some doc)
    (he : Edit.push s.hierarchy s.strict (Document.className doc) selector value doc = .ok () doc')
    (hd : s'.documents = s.documents.insert id doc') (hi : s'.index = s.index) :
    Performs s (.push id selector value) s' (.ok .done)
  | pulled {id : String} {selector : Selector} {doc doc' : Document} {s' : Store}
    (hne : selector ≠ []) (hid : s.documents.get? id = some doc)
    (he : Edit.pull s.hierarchy (Document.className doc) selector doc = .ok () doc')
    (hd : s'.documents = s.documents.insert id doc') (hi : s'.index = s.index) :
    Performs s (.remove id selector) s' (.ok .done)
  | removed {id : String} {doc : Document} {s' : Store} (hid : s.documents.get? id = some doc)
    (hd : s'.documents = s.documents.erase id) (hi : s'.index = none) :
    Performs s (.remove id []) s' (.ok .done)
  | viewed {id classifier : String} {view : View} {s' : Store}
    (hd : s'.documents = s.documents) (hi : s'.index = s.index) :
    Performs s (.view id classifier) s' (.ok (.viewed view))
  | edited {id classifier : String} {edits : List ViewEdit} {doc : Document} {c : Classifier}
    {s' : Store} (hid : s.documents.get? id = some doc) (hc : s.hierarchy.find? classifier = some c)
    (hd : s'.documents = s.documents.insert id (doc.edited s.hierarchy c edits).2.layout)
    (hi : s'.index = s.index)
    (hgrant : (AccessorTable.of s.hierarchy c).check s.hierarchy doc = .ok ()) :
    Performs s (.editView id classifier edits) s' (.ok (.edited (doc.edited s.hierarchy c edits)))
  | cast {id mixin : String} {edits : List ViewEdit} {doc : Document} {c : Classifier} {s' : Store}
    (hid : s.documents.get? id = some doc)
    (hm : s.hierarchy.Applies (Document.className doc) mixin)
    (hc : s.hierarchy.find? mixin = some c)
    (hd : s'.documents = s.documents.insert id
      ((doc.addMixin mixin).edited s.hierarchy c edits).2.layout)
    (hi : s'.index = s.index) :
    Performs s (.cast id mixin edits) s'
      (.ok (.edited ((doc.addMixin mixin).edited s.hierarchy c edits)))

variable {s : Store}

/-! ## Calls that edit -/

/-- An edit that fails as a whole or not at all refuses, or puts back what it has made. -/
theorem edit_cases {change : Document → Editing Unit} (hc : ∀ doc, (change doc).Atomic)
    (op : Operation) (id : String) :
    (∃ fault, (s.edit op id change).result = .error fault ∧ (s.edit op id change).store = s) ∨
      ∃ doc doc', s.documents.get? id = some doc ∧ change doc doc = .ok () doc' ∧
        (s.edit op id change).result = .ok () ∧
        (s.edit op id change).store = { s with documents := s.documents.insert id doc' } := by
  cases hd : s.documents.get? id with
  | none =>
    simp only [edit, hd]
    exact .inl ⟨_, rfl, rfl⟩
  | some doc =>
    simp only [edit, hd]
    rcases he : change doc doc with ⟨⟨⟩, doc'⟩ | ⟨fault, left⟩
    · exact .inr ⟨doc, doc', rfl, he, rfl, rfl⟩
    · rw [hc doc doc fault left he]
      exact .inl ⟨fault, rfl, by simp only [Documents.insert_eq_self hd]⟩

theorem performs_update (id : String) (selector : Selector) (values : Layout) :
    s.Performs (.update id selector values) (s.step (.update id selector values))
      (s.perform (.update id selector values)).result := by
  rcases edit_cases (s := s) (fun doc => Edit.atomic_set s.hierarchy s.strict
      (Document.className doc) selector values) .update id with
    ⟨fault, hr, hs⟩ | ⟨doc, doc', hid, he, hr, hs⟩
  · simp only [step, perform, Reply.map, update, hr, hs]
    exact .refused rfl rfl
  · simp only [step, perform, Reply.map, update, hr, hs]
    exact .updated hid he rfl rfl

theorem performs_push (id : String) (selector : Selector) (value : Value) :
    s.Performs (.push id selector value) (s.step (.push id selector value))
      (s.perform (.push id selector value)).result := by
  rcases edit_cases (s := s) (fun doc => Edit.atomic_push s.hierarchy s.strict
      (Document.className doc) selector value) .push id with
    ⟨fault, hr, hs⟩ | ⟨doc, doc', hid, he, hr, hs⟩
  · simp only [step, perform, Reply.map, push, hr, hs]
    exact .refused rfl rfl
  · simp only [step, perform, Reply.map, push, hr, hs]
    exact .pushed hid he rfl rfl

theorem performs_remove (id : String) (selector : Selector) :
    s.Performs (.remove id selector) (s.step (.remove id selector))
      (s.perform (.remove id selector)).result := by
  cases selector with
  | nil =>
    simp only [step, perform, Reply.map, remove, List.isEmpty_nil, if_true]
    cases hc : s.documents.contains id with
    | false => exact .refused rfl rfl
    | true =>
      obtain ⟨doc, hid⟩ := Documents.contains_eq_true_iff.1 hc
      exact .removed hid rfl rfl
  | cons first rest =>
    rcases edit_cases (s := s) (fun doc => Edit.atomic_pull s.hierarchy
        (Document.className doc) (first :: rest)) .pull id with
      ⟨fault, hr, hs⟩ | ⟨doc, doc', hid, he, hr, hs⟩
    · simp only [step, perform, Reply.map, remove, List.isEmpty_cons, Bool.false_eq_true,
        if_false, hr, hs]
      exact .refused rfl rfl
    · simp only [step, perform, Reply.map, remove, List.isEmpty_cons, Bool.false_eq_true,
        if_false, hr, hs]
      exact .pulled (List.cons_ne_nil first rest) hid he rfl rfl

/-! ## Calls that read and load -/

theorem performs_load (docs : List Document) :
    s.Performs (.load docs) (s.step (.load docs)) (s.perform (.load docs)).result := by
  simp only [step, perform, Reply.map, load]
  cases hd : stage s.hierarchy s.documents docs with
  | error fault => exact .refused rfl rfl
  | ok documents => exact .loaded hd rfl

theorem performs_create (classId : String) (values : Layout) (id : String) :
    s.Performs (.create classId values id) (s.step (.create classId values id))
      (s.perform (.create classId values id)).result := by
  simp only [step, perform, Reply.map, create]
  cases hc : s.documents.contains id with
  | true => exact .refused rfl rfl
  | false =>
    cases hdoc : s.newDocument classId values id with
    | error fault => exact .refused rfl rfl
    | ok made => exact .created (Documents.contains_eq_false_iff.1 hc) hdoc rfl rfl

/-- A search leaves the documents and leaves or builds the index. -/
theorem keepsIndex_withIndex (s : Store) :
    s.withIndex.2.1.documents = s.documents ∧ s.KeepsIndex s.withIndex.2.1 := by
  rw [withIndex]
  cases hi : s.index with
  | some index => exact ⟨rfl, .inl rfl⟩
  | none => exact ⟨rfl, .inr rfl⟩

theorem performs_find (classId : String) (query : Layout) :
    s.Performs (.find classId query) (s.step (.find classId query))
      (s.perform (.find classId query)).result := by
  simp only [step, perform, Reply.map, find]
  cases hb : s.hierarchy.concreteClass classId with
  | error fault => exact .refused rfl rfl
  | ok base =>
    obtain ⟨hd, hi⟩ := keepsIndex_withIndex s
    simp only [answer]
    split
    · exact .searched hd hi
    · exact .searched hd hi

/-! ## Calls through views -/

theorem performs_view (id classifier : String) :
    s.Performs (.view id classifier) (s.step (.view id classifier))
      (s.perform (.view id classifier)).result := by
  simp only [step, perform, Reply.map, view]
  cases hid : s.documents.get? id with
  | none => exact .refused rfl rfl
  | some doc =>
    simp only
    cases hv : (s.views.view s.hierarchy doc classifier).1 with
    | error fault => exact .refused rfl rfl
    | ok view => exact .viewed rfl rfl

/-- A view is refused, or the edits are made through the table of the classifier. -/
theorem editView_cases (hv : s.views.Faithful s.hierarchy) {id : String} {doc : Document}
    (hid : s.documents.get? id = some doc) (classifier : String) (edits : List ViewEdit) :
    (∃ fault, (s.views.view s.hierarchy doc classifier).1 = .error fault ∧
        (s.editView id classifier edits).result = .error fault ∧
        (s.editView id classifier edits).store =
          { s with views := (s.views.view s.hierarchy doc classifier).2.1 }) ∨
      ∃ c, s.hierarchy.find? classifier = some c ∧
        (AccessorTable.of s.hierarchy c).check s.hierarchy doc = .ok () ∧
        (s.editView id classifier edits).result = .ok (doc.edited s.hierarchy c edits) ∧
        (s.editView id classifier edits).store =
          { s with
            views := (s.views.view s.hierarchy doc classifier).2.1
            documents := s.documents.insert id (doc.edited s.hierarchy c edits).2.layout } := by
  simp only [editView, view, hid]
  cases hw : (s.views.view s.hierarchy doc classifier).1 with
  | error fault => exact .inl ⟨fault, rfl, rfl, rfl⟩
  | ok w =>
    obtain ⟨c, hc, hgrant, rfl⟩ := (Views.view_eq_ok_iff hv).1 hw
    exact .inr ⟨c, hc, hgrant, rfl, rfl⟩

theorem performs_editView (hv : s.views.Faithful s.hierarchy) (id classifier : String)
    (edits : List ViewEdit) :
    s.Performs (.editView id classifier edits) (s.step (.editView id classifier edits))
      (s.perform (.editView id classifier edits)).result := by
  cases hid : s.documents.get? id with
  | none =>
    simp only [step, perform, Reply.map, editView, view, hid]
    exact .refused rfl rfl
  | some doc =>
    rcases editView_cases hv hid classifier edits with
      ⟨fault, -, hr, hs⟩ | ⟨c, hc, hgrant, hr, hs⟩
    · simp only [step, perform, Reply.map, hr, hs]
      exact .refused rfl rfl
    · simp only [step, perform, Reply.map, hr, hs]
      exact .edited hid hc rfl rfl hgrant

/-- A mixin has a table, so that edits through its view are not refused. -/
theorem editView_of_isMixin (hv : s.views.Faithful s.hierarchy) {id mixin : String}
    {doc : Document} {c : Classifier} (hid : s.documents.get? id = some doc)
    (hm : s.hierarchy.isMixin mixin = true) (hc : s.hierarchy.find? mixin = some c)
    (edits : List ViewEdit) :
    (s.editView id mixin edits).result = .ok (doc.edited s.hierarchy c edits) ∧
      (s.editView id mixin edits).store =
        { s with
          views := (s.views.table s.hierarchy mixin).2.1
          documents := s.documents.insert id (doc.edited s.hierarchy c edits).2.layout } := by
  rcases editView_cases hv hid mixin edits with ⟨fault, hf, -, -⟩ | ⟨d, hd, -, hr, hs⟩
  · obtain ⟨w, hw⟩ := Views.view_mixin hv hm doc
    rw [hf] at hw
    cases hw
  · rw [hc] at hd
    cases hd
    exact ⟨hr, hs⟩

theorem addMixin_of_hasMixin {doc : Document} {mixin : String}
    (hm : Document.hasMixin doc mixin = true) : Document.addMixin doc mixin = doc := by
  rw [Document.addMixin, if_pos hm]

/-- A cast of a mixin that does not apply is refused and leaves the store. -/
theorem cast_of_not_applies {id mixin : String} {doc : Document}
    (hid : s.documents.get? id = some doc)
    (hm : ¬ s.hierarchy.Applies (Document.className doc) mixin) (edits : List ViewEdit) :
    ∃ fault, s.cast id mixin edits = s.reply (.error fault) := by
  cases hcheck : s.hierarchy.checkMixin (Document.className doc) mixin with
  | ok u => exact absurd (Hierarchy.checkMixin_eq_ok_iff.1 hcheck) hm
  | error fault => exact ⟨fault, by simp only [cast, hid, hcheck]⟩

/-- A cast of a mixin that applies adds it, asks for its table, and edits through it. -/
theorem cast_of_applies (hv : s.views.Faithful s.hierarchy) {id mixin : String} {doc : Document}
    {c : Classifier} (hid : s.documents.get? id = some doc)
    (hm : s.hierarchy.Applies (Document.className doc) mixin)
    (hc : s.hierarchy.find? mixin = some c) (edits : List ViewEdit) :
    (s.cast id mixin edits).result = .ok ((doc.addMixin mixin).edited s.hierarchy c edits) ∧
      (s.cast id mixin edits).store =
        { s with
          views := (s.views.table s.hierarchy mixin).2.1
          documents := s.documents.insert id
            ((doc.addMixin mixin).edited s.hierarchy c edits).2.layout } := by
  have hcheck := Hierarchy.checkMixin_eq_ok_iff.2 hm
  cases happ : Document.hasMixin doc mixin with
  | true =>
    simp only [cast, hid, hcheck, happ, if_true, addMixin_of_hasMixin happ]
    exact editView_of_isMixin hv hid hm.1 hc edits
  | false =>
    have hid' : (s.documents.insert id (Document.addMixin doc mixin)).get? id =
        some (Document.addMixin doc mixin) := Documents.get?_insert_self _ id _
    obtain ⟨hr, hs⟩ := editView_of_isMixin
      (s := { s with documents := s.documents.insert id (Document.addMixin doc mixin) })
      hv hid' hm.1 hc edits
    simp only [cast, hid, hcheck, happ, Bool.false_eq_true, if_false, hr, hs,
      Documents.insert_insert, and_self]

theorem performs_cast (hv : s.views.Faithful s.hierarchy) (id mixin : String)
    (edits : List ViewEdit) :
    s.Performs (.cast id mixin edits) (s.step (.cast id mixin edits))
      (s.perform (.cast id mixin edits)).result := by
  cases hid : s.documents.get? id with
  | none =>
    simp only [step, perform, Reply.map, cast, hid]
    exact .refused rfl rfl
  | some doc =>
    by_cases hm : s.hierarchy.Applies (Document.className doc) mixin
    · obtain ⟨c, hc, -⟩ := Hierarchy.isMixin_eq_true_iff.1 hm.1
      obtain ⟨hr, hs⟩ := cast_of_applies hv hid hm hc edits
      simp only [step, perform, Reply.map, hr, hs]
      exact .cast hid hm hc rfl rfl
    · obtain ⟨fault, hcast⟩ := cast_of_not_applies hid hm edits
      simp only [step, perform, Reply.map, hcast]
      exact .refused rfl rfl

/-! ## All calls -/

theorem performs_perform (hv : s.views.Faithful s.hierarchy) (a : Action) :
    s.Performs a (s.step a) (s.perform a).result := by
  cases a with
  | load docs => exact performs_load docs
  | create classId values id => exact performs_create classId values id
  | find classId query => exact performs_find classId query
  | update id selector values => exact performs_update id selector values
  | push id selector value => exact performs_push id selector value
  | remove id selector => exact performs_remove id selector
  | view id classifier => exact performs_view id classifier
  | editView id classifier edits => exact performs_editView hv id classifier edits
  | cast id mixin edits => exact performs_cast hv id mixin edits

/-! ## What no call changes -/

/-- The second store is for the hierarchy of the first and as strict, and its tables are faithful
if those of the first are. -/
structure SameSetting (s s' : Store) : Prop where
  hierarchy : s'.hierarchy = s.hierarchy
  strict : s'.strict = s.strict
  views : s.views.Faithful s.hierarchy → s'.views.Faithful s.hierarchy

theorem SameSetting.of_views {s' : Store} (hh : s'.hierarchy = s.hierarchy)
    (hs : s'.strict = s.strict) (hv : s'.views = s.views) : SameSetting s s' :=
  ⟨hh, hs, fun hf => hv ▸ hf⟩

theorem sameSetting_edit (operation : Operation) (id : String)
    (change : Document → Editing Unit) : SameSetting s (s.edit operation id change).store := by
  rw [edit]
  split
  · exact .of_views rfl rfl rfl
  · split <;> exact .of_views rfl rfl rfl

theorem sameSetting_editView (id classifier : String) (edits : List ViewEdit) :
    SameSetting s (s.editView id classifier edits).store := by
  simp only [editView, view]
  cases hid : s.documents.get? id with
  | none => exact .of_views rfl rfl rfl
  | some doc =>
    simp only
    split <;> exact ⟨rfl, rfl, fun hf => Views.faithful_view hf doc classifier⟩

theorem sameSetting_step (s : Store) (a : Action) : SameSetting s (s.step a) := by
  cases a with
  | load docs =>
    simp only [step, perform, Reply.map, load]
    split <;> exact .of_views rfl rfl rfl
  | create classId values id =>
    simp only [step, perform, Reply.map, create]
    split
    · exact .of_views rfl rfl rfl
    · cases s.newDocument classId values id <;> exact .of_views rfl rfl rfl
  | find classId query =>
    simp only [step, perform, Reply.map, find]
    cases s.hierarchy.concreteClass classId with
    | error fault => exact .of_views rfl rfl rfl
    | ok base =>
      simp only [answer, withIndex]
      cases s.index <;> (simp only; split <;> exact .of_views rfl rfl rfl)
  | update id selector values => exact sameSetting_edit ..
  | push id selector value => exact sameSetting_edit ..
  | remove id selector =>
    simp only [step, perform, Reply.map, remove]
    split
    · split <;> exact .of_views rfl rfl rfl
    · exact sameSetting_edit ..
  | view id classifier =>
    simp only [step, perform, Reply.map, view]
    split
    · exact .of_views rfl rfl rfl
    · next doc hid => exact ⟨rfl, rfl, fun hf => Views.faithful_view hf doc classifier⟩
  | editView id classifier edits => exact sameSetting_editView ..
  | cast id mixin edits =>
    simp only [step, perform, Reply.map, cast]
    cases hid : s.documents.get? id with
    | none => exact .of_views rfl rfl rfl
    | some doc =>
      simp only
      split
      · exact .of_views rfl rfl rfl
      · split
        · exact sameSetting_editView ..
        · -- The mixin is added in the documents only.
          obtain ⟨hh, hs, hv⟩ := sameSetting_editView
            (s := { s with documents := s.documents.insert id (Document.addMixin doc mixin) })
            id mixin edits
          exact ⟨hh, hs, hv⟩

theorem SameSetting.trans {s' s'' : Store} (hs : SameSetting s s') (hs' : SameSetting s' s'') :
    SameSetting s s'' where
  hierarchy := hs'.hierarchy.trans hs.hierarchy
  strict := hs'.strict.trans hs.strict
  views hf := by
    have hf' := hs'.views (hs.hierarchy ▸ hs.views hf)
    rwa [hs.hierarchy] at hf'

namespace ReachableBy

variable {kind : Action → Prop} {h : Hierarchy} {strict : Bool}

theorem sameSetting (hs : ReachableBy kind h strict s) :
    SameSetting (Store.empty h strict) s := by
  induction hs with
  | empty => exact .of_views rfl rfl rfl
  | step hs ha ih => exact ih.trans (sameSetting_step _ _)

theorem hierarchy_eq (hs : ReachableBy kind h strict s) : s.hierarchy = h :=
  hs.sameSetting.hierarchy

theorem strict_eq (hs : ReachableBy kind h strict s) : s.strict = strict := hs.sameSetting.strict

theorem faithful (hs : ReachableBy kind h strict s) : s.views.Faithful s.hierarchy :=
  hs.hierarchy_eq ▸ hs.sameSetting.views (Views.faithful_empty h)

theorem performs (hs : ReachableBy kind h strict s) (a : Action) :
    s.Performs a (s.step a) (s.perform a).result :=
  performs_perform hs.faithful a

end ReachableBy

end Engine

/-- A store with one task, to which a mixin is applied. -/
theorem reachable_estimated_task : Reachable .tasks false
    ((empty .tasks false).run [.create "Estimate" [("hours", .null)] "t1"]) := by
  refine ReachableBy.empty.step ?_
  rw [Action.Ordered, Layout.ordered_iff]
  exact ⟨by decide, by simp [Value.Ordered]⟩

end Store

end TypedDocs
