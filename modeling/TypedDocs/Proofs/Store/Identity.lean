import TypedDocs.Pattern.Basic
import TypedDocs.Proofs.Store.Admission
import TypedDocs.Proofs.Store.Transition

/-!
# The identity of stored documents

Seen by the identities of its documents, a call does one of four things (`Evolves`): it leaves the
documents, adds identified ones, gives one of them another form with the same identity, or removes
one.  So every document of a reachable store is identified under its id, and keeps its id and its
class until it is removed.
-/

namespace TypedDocs

/-! ## Identities of documents -/

namespace Document

variable {h : Hierarchy} {classId : String} {doc doc' doc'' : Document}

theorem SameIdentity.trans (hs : SameIdentity h classId doc doc')
    (hs' : SameIdentity h classId doc' doc'') : SameIdentity h classId doc doc'' where
  id := hs'.id.trans hs.id
  tag := hs'.tag.trans hs.tag
  mixins := by
    rcases hs'.mixins with he | hnew
    · rw [he]
      exact hs.mixins
    · exact .inr hnew

/-- Edits through a view change no internal key. -/
theorem get?_edited {classifier : String} {c : Classifier} (hc : h.find? classifier = some c)
    (doc : Document) (edits : List ViewEdit) {key : String} (hk : Key.isInternal key = true) :
    (doc.edited h c edits).2.layout.get? key = doc.get? key := by
  have hne : ∀ name a, (AccessorTable.of h c).accessor? name = some a → key ≠ a.key.wire := by
    intro name a ha
    obtain ⟨r, hr, hw⟩ := AccessorTable.resolve_of_accessor? hc ha
    rw [hw]
    exact Key.ne_of_isInternal hk (Hierarchy.isInternal_wire_of_resolve hr)
  refine View.applyAll_induction (v := ⟨AccessorTable.of h c, doc⟩)
    (P := fun layout => layout.get? key = doc.get? key) rfl ?_ ?_
  · intro name value _ a ha layout hl
    rw [Keyed.get?_insert_of_ne layout value (hne name a ha), hl]
  · intro name a ha layout hl
    rw [Keyed.get?_erase_of_ne layout (hne name a ha), hl]

theorem sameIdentity_edited {classifier : String} {c : Classifier}
    (hc : h.find? classifier = some c) (doc : Document) (edits : List ViewEdit) :
    SameIdentity h classId doc (doc.edited h c edits).2.layout :=
  .of_internal fun _ hk => get?_edited hc doc edits hk

/-- A mixin that is added comes last in the array of mixins, which nothing else changes. -/
theorem addMixin_cases (doc : Document) (mixin : String) :
    addMixin doc mixin = doc ∨ ∃ items, addMixin doc mixin =
        doc.insert mixinsKey (.array (items ++ [.string mixin])) ∧
      (items = [] ∨ doc.get? mixinsKey = some (.array items)) := by
  unfold addMixin
  split
  · exact .inl rfl
  · split
    · next items hi => exact .inr ⟨items, rfl, .inr hi⟩
    · exact .inr ⟨[], rfl, .inl rfl⟩

theorem sameIdentity_addMixin {id mixin : String} (hd : doc.Identified h id)
    (hm : h.Applies (className doc) mixin) :
    SameIdentity h (className doc) doc (addMixin doc mixin) := by
  rcases addMixin_cases doc mixin with he | ⟨items, he, hitems⟩
  · rw [he]
    exact ⟨rfl, rfl, .inl rfl⟩
  · rw [he]
    refine ⟨Keyed.get?_insert_of_ne doc _ (by decide), Keyed.get?_insert_of_ne doc _ (by decide),
      .inr ⟨_, Keyed.get?_insert_self doc _ _, Hierarchy.checkMixins_eq_ok_iff.2 ⟨_, rfl, ?_⟩⟩⟩
    intro item hitem
    rcases List.mem_append.1 hitem with hitem | hitem
    · rcases hitems with rfl | hget
      · cases hitem
      · obtain ⟨items', hi, hall⟩ := hd.mixins _ hget
        cases hi
        exact hall item hitem
    · rw [List.mem_singleton] at hitem
      exact ⟨mixin, hitem, hm⟩

end Document

/-! ## Calls and identities -/

namespace Store

section Engine

variable {ρ : Type} [Pattern.Engine ρ]
variable {h : Hierarchy} {strict : Bool} {s s' : Store} {a : Action} {id : String}
  {doc : Document}

/-- Every document is identified under its id. -/
def Identified (s : Store) : Prop :=
  ∀ id doc, s.documents.get? id = some doc → doc.Identified s.hierarchy id

/-- What a call does to the documents, seen by their identities, and to the index. -/
inductive Evolves (s : Store) (a : Action) (s' : Store) : Prop where
  | kept (hd : s'.documents = s.documents) (hi : s.KeepsIndex s')
  | grown (hold : ∀ id doc, s.documents.get? id = some doc → s'.documents.get? id = some doc)
    (hnew : ∀ id doc, s'.documents.get? id = some doc →
      s.documents.get? id = some doc ∨
        s.documents.get? id = none ∧ doc.Identified s.hierarchy id)
    (hi : s'.index = none)
  | revised {id : String} {doc doc' : Document} (hid : s.documents.get? id = some doc)
    (hsame : Document.SameIdentity s.hierarchy (Document.className doc) doc doc')
    (hd : s'.documents = s.documents.insert id doc') (hi : s'.index = s.index)
  | removed {id : String} (ha : a = .remove id [])
    (hd : s'.documents = s.documents.erase id) (hi : s'.index = none)

theorem Performs.evolves {result : Except Fault Action.Result} (hp : s.Performs a s' result)
    (ha : a.Ordered) (hs : s.Identified) : s.Evolves a s' := by
  cases hp with
  | refused hd hi => exact .kept hd (.inl hi)
  | searched hd hi => exact .kept hd hi
  | viewed hd hi => exact .kept hd (.inl hi)
  | loaded hd hi =>
    obtain ⟨hold, hnew⟩ := stage_spec hd
    exact .grown hold hnew hi
  | @created classId id concrete values doc s' hid hdoc hd hi =>
    refine .grown (fun other old hold => ?_) (fun other found hfound => ?_) hi
    · rw [hd, Documents.get?_insert, if_neg, hold]
      intro he
      rw [he, hid] at hold
      cases hold
    · rw [hd, Documents.get?_insert] at hfound
      split at hfound
      · next he =>
        cases hfound
        rw [he]
        exact .inr ⟨hid, identified_newDocument hdoc⟩
      · exact .inl hfound
  | @updated id selector values doc doc' s' hid he hd hi =>
    have hv := (Layout.ordered_iff.1 ha.2).1.nodup
    exact .revised hid (Edit.sameIdentity_set (hs id doc hid).tag?_eq hv he) hd hi
  | pushed hid he hd hi =>
    exact .revised hid (Edit.sameIdentity_push he _) hd hi
  | pulled hne hid he hd hi =>
    exact .revised hid (Edit.sameIdentity_pull he _) hd hi
  | removed hid hd hi => exact .removed rfl hd hi
  | edited hid hc hd hi _ => exact .revised hid (Document.sameIdentity_edited hc _ _) hd hi
  | @cast id mixin edits doc c s' hid hm hc hd hi =>
    have hsame := Document.sameIdentity_addMixin (hs id doc hid) hm
    exact .revised hid (hsame.trans (Document.sameIdentity_edited hc _ _)) hd hi

/-- A stored document comes from the document under its id, or is new and identified. -/
theorem Evolves.origin (he : s.Evolves a s') {doc' : Document}
    (hid : s'.documents.get? id = some doc') :
    (∃ doc, s.documents.get? id = some doc ∧
        Document.SameIdentity s.hierarchy (Document.className doc) doc doc') ∨
      s.documents.get? id = none ∧ doc'.Identified s.hierarchy id := by
  have hrefl (doc : Document) :
      Document.SameIdentity s.hierarchy (Document.className doc) doc doc :=
    .of_internal fun _ _ => rfl
  cases he with
  | kept hd hi => exact .inl ⟨doc', hd ▸ hid, hrefl doc'⟩
  | grown hold hnew hi =>
    rcases hnew id doc' hid with hold | hnew
    · exact .inl ⟨doc', hold, hrefl doc'⟩
    · exact .inr hnew
  | @revised other doc new hother hsame hd hi =>
    rw [hd, Documents.get?_insert] at hid
    split at hid
    · next he =>
      cases hid
      exact .inl ⟨doc, he ▸ hother, hsame⟩
    · exact .inl ⟨doc', hid, hrefl doc'⟩
  | @removed other ha hd hi =>
    rw [hd, Documents.get?_erase] at hid
    split at hid
    · cases hid
    · exact .inl ⟨doc', hid, hrefl doc'⟩

/-- A stored document stays under its id unless the call removes it. -/
theorem Evolves.persists (he : s.Evolves a s') (ha : a ≠ .remove id [])
    (hid : s.documents.get? id = some doc) : ∃ doc', s'.documents.get? id = some doc' := by
  cases he with
  | kept hd hi => exact ⟨doc, hd ▸ hid⟩
  | grown hold hnew hi => exact ⟨doc, hold id doc hid⟩
  | revised hother hsame hd hi =>
    rw [hd, Documents.get?_insert]
    split
    · exact ⟨_, rfl⟩
    · exact ⟨doc, hid⟩
  | removed hrem hd hi =>
    rw [hd, Documents.get?_erase, if_neg]
    · exact ⟨doc, hid⟩
    · intro he
      rw [← he] at hrem
      exact ha hrem

/-! ## Reachable stores -/

namespace ReachableBy

variable {kind : Action → Prop}

theorem evolves (hs : ReachableBy kind h strict s) (hi : s.Identified) (ha : a.Ordered) :
    s.Evolves a (s.step a) :=
  (hs.performs a).evolves ha hi

theorem identified (hs : Reachable h strict s) : s.Identified := by
  induction hs with
  | empty =>
    intro id doc hid
    cases hid
  | step hs ha ih =>
    intro id doc hid
    rw [(sameSetting_step _ _).hierarchy]
    rcases (hs.evolves ih ha).origin hid with ⟨old, hold, hsame⟩ | ⟨-, hnew⟩
    · exact (ih id old hold).of_sameIdentity hsame
    · exact hnew

/-- A call that does not remove a document keeps its id and its class. -/
theorem get?_step (hs : Reachable h strict s) (ha : a.Ordered) (hne : a ≠ .remove id [])
    (hid : s.documents.get? id = some doc) :
    ∃ doc', (s.step a).documents.get? id = some doc' ∧
      doc'.get? Document.idKey = doc.get? Document.idKey ∧
      doc'.get? Document.classKey = doc.get? Document.classKey := by
  have he := hs.evolves hs.identified ha
  obtain ⟨doc', hid'⟩ := he.persists hne hid
  rcases he.origin hid' with ⟨old, hold, hsame⟩ | ⟨hnone, -⟩
  · rw [hid] at hold
    cases hold
    exact ⟨doc', hid', hsame.id, hsame.tag⟩
  · rw [hid] at hnone
    cases hnone

end ReachableBy

/-! ## Main statement -/

/-- In every store that calls lead to, each document is identified under its id; calls that do not
remove it, however many, keep its id and its class. -/
theorem identity_of_reachable (hs : Reachable h strict s)
    (hid : s.documents.get? id = some doc) :
    doc.Identified h id ∧
      ∀ calls : List Action, (∀ a ∈ calls, a.Ordered) → .remove id [] ∉ calls →
        ∃ doc', (s.run calls).documents.get? id = some doc' ∧
          doc'.get? Document.idKey = doc.get? Document.idKey ∧
          doc'.get? Document.classKey = doc.get? Document.classKey := by
  refine ⟨hs.hierarchy_eq ▸ hs.identified id doc hid, fun calls => ?_⟩
  induction calls generalizing s doc with
  | nil => exact fun _ _ => ⟨doc, hid, rfl, rfl⟩
  | cons a rest ih =>
    intro hord hrem
    rw [List.forall_mem_cons] at hord
    rw [List.mem_cons, not_or] at hrem
    obtain ⟨mid, hmid, hidMid, htagMid⟩ := hs.get?_step hord.1 (Ne.symm hrem.1) hid
    obtain ⟨last, hlast, hidLast, htagLast⟩ := ih (hs.step hord.1) hmid hord.2 hrem.2
    exact ⟨last, hlast, hidLast.trans hidMid, htagLast.trans htagMid⟩

end Engine

theorem identity_of_estimated_task :
    ∃ doc, ((empty .tasks false).run
        [.create "Estimate" [("hours", .null)] "t1"]).documents.get? "t1" = some doc ∧
      doc.Identified .tasks "t1" ∧
      ∃ doc', ((empty .tasks false).run [.create "Estimate" [("hours", .null)] "t1",
          .remove "t2" [], .cast "t1" "Estimate" []]).documents.get? "t1" = some doc' ∧
        doc'.get? Document.idKey = doc.get? Document.idKey ∧
        doc'.get? Document.classKey = doc.get? Document.classKey := by
  obtain ⟨doc, hdoc⟩ : ∃ doc, ((empty .tasks false).run
      [.create "Estimate" [("hours", .null)] "t1"]).documents.get? "t1" = some doc := ⟨_, rfl⟩
  obtain ⟨hidentified, hlater⟩ := identity_of_reachable reachable_estimated_task hdoc
  refine ⟨doc, hdoc, hidentified, hlater [.remove "t2" [], .cast "t1" "Estimate" []] ?_ ?_⟩
  · simp [Action.Ordered, Selector.Ordered]
  · simp

end Store

end TypedDocs
