import TypedDocs.Pattern.Basic
import TypedDocs.Proofs.Store.Transition
import TypedDocs.Proofs.Value.Order

/-!
# Calls for different documents

A call that creates, edits, shows or removes a document sees no more of a store than the hierarchy,
the strictness and the document with its id, and it leaves all other documents.  So calls for
different documents can be made in either order: each gives what it gives alone, be it refused or
not, and both orders leave the same documents.

    SameAt id s s' → a.document? = some id → Reply.SameAt id (s.perform a) (s'.perform a)
                                                                                    (sameAt_perform)
    a.document? = some id → s.LeavesOthers id (s.step a)                         (leavesOthers_step)

Which tables have been built and whether there is an index is left open by `SameAt`, so neither
carries anything from one call to another.  Attributes and patterns that are kept beside the stores
cannot either: with them every call gets the reply that it gets without (`Caching.agrees_perform`).
-/

namespace TypedDocs

/-! ## Definitions -/

/-- The id of the document that a call is for; a call for no single document has none. -/
def Action.document? : Action → Option String
  | .load _ | .find _ _ => none
  | .create _ _ id | .update id _ _ | .push id _ _ | .remove id _ | .view id _ | .editView id _ _
  | .cast id _ _ => some id

/-- Two replies give the same, and the stores after them have the same document under an id. -/
structure Reply.SameAt {α : Type} (id : String) (r r' : Reply α) : Prop where
  result : r'.result = r.result
  document : r'.store.documents.get? id = r.store.documents.get? id

namespace Store

variable {ρ : Type} [Pattern.Engine ρ]

/-- Two stores of one hierarchy, as strict as each other, have the same document under an id. -/
structure SameAt (id : String) (s s' : Store) : Prop where
  hierarchy : s'.hierarchy = s.hierarchy
  strict : s'.strict = s.strict
  faithful : s.views.Faithful s.hierarchy
  faithful' : s'.views.Faithful s.hierarchy
  document : s'.documents.get? id = s.documents.get? id

/-- The second store has the documents of the first, apart from the one under an id. -/
def LeavesOthers (id : String) (s s' : Store) : Prop :=
  ∀ other, other ≠ id → s'.documents.get? other = s.documents.get? other

/-- Each of two calls gives the same before and after the other, and both orders leave the same
documents. -/
structure Commute (s : Store) (a b : Action) : Prop where
  first : ((s.step b).perform a).result = (s.perform a).result
  second : ((s.step a).perform b).result = (s.perform b).result
  documents : ((s.step a).step b).documents = ((s.step b).step a).documents

end Store

/-! ## Documents by their ids -/

theorem Documents.eq_of_get? {d d' : Documents} (hg : ∀ id, d.get? id = d'.get? id) : d = d' :=
  eq_of_entries (d.sorted.eq_of_get? d'.sorted hg)

theorem Reply.SameAt.map {α β : Type} {id : String} {r r' : Reply α} (hr : r.SameAt id r')
    (f : α → β) : (r.map f).SameAt id (r'.map f) :=
  ⟨congrArg (Except.map f) hr.result, hr.document⟩

namespace Store

section Engine

variable {ρ : Type} [Pattern.Engine ρ]
variable {s s' : Store} {id : String} {a b : Action}

/-! ## What a call sees -/

theorem SameAt.contains (hs : SameAt id s s') :
    s'.documents.contains id = s.documents.contains id :=
  congrArg Option.isSome hs.document

/-- Stores stay the same at an id when one document is put there. -/
theorem SameAt.insert (hs : SameAt id s s') (doc : Document) :
    SameAt id { s with documents := s.documents.insert id doc }
      { s' with documents := s'.documents.insert id doc } where
  hierarchy := hs.hierarchy
  strict := hs.strict
  faithful := hs.faithful
  faithful' := hs.faithful'
  document := by simp only [Documents.get?_insert, if_pos]

theorem sameAt_edit (hs : SameAt id s s') (operation : Operation)
    (change : Document → Editing Unit) :
    Reply.SameAt id (s.edit operation id change) (s'.edit operation id change) := by
  rw [edit, edit, hs.document]
  cases s.documents.get? id with
  | none => exact ⟨rfl, hs.document⟩
  | some doc =>
    cases hc : change doc doc with
    | ok u doc' => exact ⟨by simp only [hc], by simp only [hc, Documents.get?_insert, if_pos]⟩
    | error fault doc' =>
      exact ⟨by simp only [hc], by simp only [hc, Documents.get?_insert, if_pos]⟩

theorem newDocument_congr (hs : SameAt id s s') (classId : String) (values : Layout) :
    s'.newDocument classId values id = s.newDocument classId values id := by
  simp only [newDocument, hs.hierarchy, hs.strict]

theorem sameAt_create (hs : SameAt id s s') (classId : String) (values : Layout) :
    Reply.SameAt id (s.create classId values id) (s'.create classId values id) := by
  rw [create, create, hs.contains, newDocument_congr hs]
  cases s.documents.contains id with
  | true => exact ⟨rfl, hs.document⟩
  | false =>
    cases s.newDocument classId values id with
    | error fault => exact ⟨rfl, hs.document⟩
    | ok made => exact ⟨rfl, (hs.insert made.1).document⟩

theorem sameAt_remove (hs : SameAt id s s') (selector : Selector) :
    Reply.SameAt id (s.remove id selector) (s'.remove id selector) := by
  rw [remove, remove, hs.contains, hs.hierarchy]
  cases selector.isEmpty with
  | false => exact sameAt_edit hs .pull _
  | true =>
    cases s.documents.contains id with
    | false => exact ⟨rfl, hs.document⟩
    | true => exact ⟨rfl, by simp only [Documents.get?_erase, if_pos]⟩

/-- The view of a document does not depend on the tables that were built before. -/
theorem result_view_congr (hs : SameAt id s s') (doc : Document) (classifier : String) :
    (s'.views.view s'.hierarchy doc classifier).1 =
      (s.views.view s.hierarchy doc classifier).1 := by
  rw [Views.view, Views.view, hs.hierarchy]
  simp only [Views.table_eq hs.faithful, Views.table_eq hs.faithful']

theorem sameAt_view (hs : SameAt id s s') (classifier : String) :
    Reply.SameAt id (s.view id classifier) (s'.view id classifier) := by
  rw [view, view, hs.document]
  cases s.documents.get? id with
  | none => exact ⟨rfl, hs.document⟩
  | some doc => exact ⟨result_view_congr hs doc classifier, hs.document⟩

theorem sameAt_editView (hs : SameAt id s s') (classifier : String) (edits : List ViewEdit) :
    Reply.SameAt id (s.editView id classifier edits) (s'.editView id classifier edits) := by
  obtain ⟨hresult, hdocument⟩ := sameAt_view hs classifier
  simp only [editView, hresult]
  cases (s.view id classifier).result with
  | error fault => exact ⟨rfl, hdocument⟩
  | ok v => exact ⟨rfl, by simp only [Documents.get?_insert, if_pos]⟩

theorem sameAt_cast (hs : SameAt id s s') (mixin : String) (edits : List ViewEdit) :
    Reply.SameAt id (s.cast id mixin edits) (s'.cast id mixin edits) := by
  rw [cast, cast, hs.document]
  cases s.documents.get? id with
  | none => exact ⟨rfl, hs.document⟩
  | some doc =>
    have hcheck : s'.hierarchy.checkMixin (Document.className doc) mixin =
        s.hierarchy.checkMixin (Document.className doc) mixin := by rw [hs.hierarchy]
    simp only [hcheck]
    cases s.hierarchy.checkMixin (Document.className doc) mixin with
    | error fault => exact ⟨rfl, hs.document⟩
    | ok u =>
      cases Document.hasMixin doc mixin with
      | true => exact sameAt_editView hs mixin edits
      | false =>
        -- Both stores have the document with the mixin when its view is edited.
        have hedit := sameAt_editView (hs.insert (Document.addMixin doc mixin)) mixin edits
        exact ⟨hedit.result, hedit.document⟩

/-- A call gives the same, and leaves the same document, in all stores that are the same at its
id. -/
theorem sameAt_perform (hs : SameAt id s s') (ha : a.document? = some id) :
    Reply.SameAt id (s.perform a) (s'.perform a) := by
  cases a with
  | load docs | find classId query => cases ha
  | create classId values other =>
    cases ha
    exact (sameAt_create hs classId values).map _
  | update other selector values =>
    cases ha
    rw [perform, perform, update, update, hs.hierarchy, hs.strict]
    exact (sameAt_edit hs .update _).map _
  | push other selector value =>
    cases ha
    rw [perform, perform, push, push, hs.hierarchy, hs.strict]
    exact (sameAt_edit hs .push _).map _
  | remove other selector =>
    cases ha
    exact (sameAt_remove hs selector).map _
  | view other classifier =>
    cases ha
    exact (sameAt_view hs classifier).map _
  | editView other classifier edits =>
    cases ha
    exact (sameAt_editView hs classifier edits).map _
  | cast other mixin edits =>
    cases ha
    exact (sameAt_cast hs mixin edits).map _

/-! ## What a call leaves -/

theorem leavesOthers_of_eq (hd : s'.documents = s.documents) : LeavesOthers id s s' :=
  fun _ _ => by rw [hd]

theorem leavesOthers_of_insert {doc : Document} (hd : s'.documents = s.documents.insert id doc) :
    LeavesOthers id s s' :=
  fun _ hne => by rw [hd, Documents.get?_insert, if_neg hne]

theorem leavesOthers_of_erase (hd : s'.documents = s.documents.erase id) :
    LeavesOthers id s s' :=
  fun _ hne => by rw [hd, Documents.get?_erase, if_neg hne]

theorem Performs.leavesOthers {result : Except Fault Action.Result} (hp : s.Performs a s' result)
    (ha : a.document? = some id) : s.LeavesOthers id s' := by
  cases hp with
  | refused hd _ | viewed hd _ => exact leavesOthers_of_eq hd
  | loaded _ _ | searched _ _ => cases ha
  | created _ _ hd _ | updated _ _ hd _ | pushed _ _ hd _ | pulled _ _ _ hd _ | edited _ _ hd _ _
  | cast _ _ _ hd _ =>
    cases ha
    exact leavesOthers_of_insert hd
  | removed _ hd _ =>
    cases ha
    exact leavesOthers_of_erase hd

theorem leavesOthers_step (hv : s.views.Faithful s.hierarchy) (ha : a.document? = some id) :
    s.LeavesOthers id (s.step a) :=
  (performs_perform hv a).leavesOthers ha

/-- After a call a store is the same at the id of every other document. -/
theorem sameAt_step (hv : s.views.Faithful s.hierarchy) {other : String}
    (ha : a.document? = some other) (hne : id ≠ other) : SameAt id s (s.step a) where
  hierarchy := (sameSetting_step s a).hierarchy
  strict := (sameSetting_step s a).strict
  faithful := hv
  faithful' := (sameSetting_step s a).views hv
  document := leavesOthers_step hv ha id hne

/-! ## Either order -/

/-- Both orders of two calls leave the same document under the id of the first. -/
theorem get?_step_step (hv : s.views.Faithful s.hierarchy) {other : String}
    (ha : a.document? = some id) (hb : b.document? = some other) (hne : id ≠ other) :
    ((s.step a).step b).documents.get? id = ((s.step b).step a).documents.get? id := by
  have hva := (sameSetting_step s a).views hv
  rw [← (sameSetting_step s a).hierarchy] at hva
  calc ((s.step a).step b).documents.get? id
      = (s.step a).documents.get? id := leavesOthers_step hva hb id hne
    _ = ((s.step b).step a).documents.get? id :=
        (sameAt_perform (sameAt_step hv hb hne) ha).document.symm

theorem documents_step_step (hv : s.views.Faithful s.hierarchy) {other : String}
    (ha : a.document? = some id) (hb : b.document? = some other) (hne : id ≠ other) :
    ((s.step a).step b).documents = ((s.step b).step a).documents := by
  have hva := (sameSetting_step s a).views hv
  have hvb := (sameSetting_step s b).views hv
  rw [← (sameSetting_step s a).hierarchy] at hva
  rw [← (sameSetting_step s b).hierarchy] at hvb
  refine Documents.eq_of_get? fun key => ?_
  by_cases hid : key = id
  · rw [hid]
    exact get?_step_step hv ha hb hne
  · by_cases hother : key = other
    · rw [hother]
      exact (get?_step_step hv hb ha hne.symm).symm
    · calc ((s.step a).step b).documents.get? key
          = (s.step a).documents.get? key := leavesOthers_step hva hb key hother
        _ = s.documents.get? key := leavesOthers_step hv ha key hid
        _ = (s.step b).documents.get? key := (leavesOthers_step hv hb key hother).symm
        _ = ((s.step b).step a).documents.get? key := (leavesOthers_step hvb ha key hid).symm

/-- Two calls for different documents can be made in either order, and each leaves all documents but
its own. -/
theorem calls_commute {h : Hierarchy} {strict : Bool} (hs : Reachable h strict s) {other : String}
    (ha : a.document? = some id) (hb : b.document? = some other) (hne : id ≠ other) :
    s.Commute a b ∧ s.LeavesOthers id (s.step a) ∧ s.LeavesOthers other (s.step b) := by
  have hv := hs.faithful
  exact ⟨⟨(sameAt_perform (sameAt_step hv hb hne) ha).result,
    (sameAt_perform (sameAt_step hv ha hne.symm) hb).result, documents_step_step hv ha hb hne⟩,
    leavesOthers_step hv ha, leavesOthers_step hv hb⟩

end Engine

/-- A task is created beside another one, of which a field is written that it does not have. -/
theorem calls_commute_refused :
    (((empty .tasks false).run [.create "Estimate" [("hours", .null)] "t1",
        .create "Task" [] "t2"]).perform (.update "t1" [] [("size", .null)])).result =
      .error (.attributeNotFound "Task" "size") ∧
    ((empty .tasks false).run [.create "Estimate" [("hours", .null)] "t1",
        .create "Task" [] "t2", .update "t1" [] [("size", .null)]]).documents =
      ((empty .tasks false).run [.create "Estimate" [("hours", .null)] "t1",
        .update "t1" [] [("size", .null)], .create "Task" [] "t2"]).documents := by
  have hrefused : (((empty .tasks false).run
      [.create "Estimate" [("hours", .null)] "t1"]).perform
        (.update "t1" [] [("size", .null)])).result =
      .error (.attributeNotFound "Task" "size") := rfl
  obtain ⟨⟨-, hsecond, hdocuments⟩, -⟩ := calls_commute reachable_estimated_task
    (a := .create "Task" [] "t2") (b := .update "t1" [] [("size", .null)]) rfl rfl (by decide)
  exact ⟨hsecond.trans hrefused, hdocuments⟩

end Store

end TypedDocs
