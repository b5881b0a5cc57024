import TypedDocs.Proofs.Store.Admission
import TypedDocs.Proofs.Store.Atomicity
import TypedDocs.Proofs.Store.Transition

/-!
# Where stored documents come from

After a call every stored document was stored before, was loaded or created by the call, or is
what an edit or edits through a view made of the document under its id: `Derives` lists these
cases.  So what the documents that are loaded and created have, and every edit keeps, the documents
of every reachable store have.

    s.Performs a s' result → s'.documents.get? id = some doc → s.Derives a id doc
                                                                        (Performs.derives)

What all calls keep but those of a kind, a document has that has been spared such calls: from a
store without it on they have been refused (`ReachableSparing.forall_document`).
-/

namespace TypedDocs.Store

variable {ρ : Type} [Pattern.Engine ρ]
variable {s s' : Store} {a : Action} {id : String} {doc : Document}

/-! ## Definition -/

/-- Where a document that is stored after a call comes from. -/
inductive Derives (s : Store) : Action → String → Document → Prop where
  | kept {a : Action} {id : String} {doc : Document} (hid : s.documents.get? id = some doc) :
    Derives s a id doc
  | loaded {docs : List Document} {doc : Document} (hm : doc ∈ docs)
    (hd : doc.Identified s.hierarchy (Document.id doc)) :
    Derives s (.load docs) (Document.id doc) doc
  | created {classId id concrete : String} {values : Layout} {doc : Document}
    (hdoc : s.newDocument classId values id = .ok (doc, concrete)) :
    Derives s (.create classId values id) id doc
  | updated {id : String} {selector : Selector} {values : Layout} {doc doc' : Document}
    (hid : s.documents.get? id = some doc)
    (he : Edit.set s.hierarchy s.strict (Document.className doc) selector values doc =
      .ok () doc') : Derives s (.update id selector values) id doc'
  | pushed {id : String} {selector : Selector} {value : Value} {doc doc' : Document}
    (hid : s.documents.get? id = some doc)
    (he : Edit.push s.hierarchy s.strict (Document.className doc) selector value doc =
      .ok () doc') : Derives s (.push id selector value) id doc'
  | pulled {id : String} {selector : Selector} {doc doc' : Document}
    (hid : s.documents.get? id = some doc)
    (he : Edit.pull s.hierarchy (Document.className doc) selector doc = .ok () doc') :
    Derives s (.remove id selector) id doc'
  | edited {id classifier : String} {edits : List ViewEdit} {doc : Document} {c : Classifier}
    (hid : s.documents.get? id = some doc) (hc : s.hierarchy.find? classifier = some c)
    (hgrant : (AccessorTable.of s.hierarchy c).check s.hierarchy doc = .ok ()) :
    Derives s (.editView id classifier edits) id (doc.edited s.hierarchy c edits).2.layout
  | cast {id mixin : String} {edits : List ViewEdit} {doc : Document} {c : Classifier}
    (hid : s.documents.get? id = some doc)
    (hm : s.hierarchy.Applies (Document.className doc) mixin)
    (hc : s.hierarchy.find? mixin = some c) :
    Derives s (.cast id mixin edits) id
      ((doc.addMixin mixin).edited s.hierarchy c edits).2.layout

/-- The store refuses the call. -/
def Refuses (s : Store) (a : Action) : Prop := ∃ fault, (s.perform a).result = .error fault

/-- The stores that calls of a kind lead to from an empty store, in which the document with an id
has been spared the bad ones: from a store without it all of these have been refused. -/
inductive ReachableSparing (kind bad : Action → Prop) (h : Hierarchy) (strict : Bool)
    (id : String) : Store → Prop where
  | absent {s : Store} (hs : ReachableBy kind h strict s) (hid : s.documents.get? id = none) :
    ReachableSparing kind bad h strict id s
  | step {s : Store} {a : Action} (hs : ReachableSparing kind bad h strict id s) (ha : kind a)
    (hb : bad a → s.Refuses a) : ReachableSparing kind bad h strict id (s.step a)

/-! ## One call -/

/-- What is stored after one document was put in is that document or was stored. -/
theorem derives_insert {other : String} {new : Document}
    (hd : s'.documents = s.documents.insert other new) (hnew : s.Derives a other new)
    (hid : s'.documents.get? id = some doc) : s.Derives a id doc := by
  rw [hd, Documents.get?_insert] at hid
  split at hid
  · next he =>
    cases hid
    rw [he]
    exact hnew
  · exact .kept hid

theorem Performs.derives {result : Except Fault Action.Result} (hp : s.Performs a s' result)
    (hid : s'.documents.get? id = some doc) : s.Derives a id doc := by
  cases hp with
  | refused hd _ | searched hd _ | viewed hd _ => exact .kept (hd ▸ hid)
  | loaded hd _ =>
    rcases get?_stage hd hid with hold | ⟨hm, rfl⟩
    · exact .kept hold
    · exact .loaded hm ((stage_eq_ok_iff.1 hd).1 doc hm).1
  | created _ hdoc hd _ => exact derives_insert hd (.created hdoc) hid
  | updated hold he hd _ => exact derives_insert hd (.updated hold he) hid
  | pushed hold he hd _ => exact derives_insert hd (.pushed hold he) hid
  | pulled _ hold he hd _ => exact derives_insert hd (.pulled hold he) hid
  | removed _ hd _ =>
    rw [hd, Documents.get?_erase] at hid
    split at hid
    · cases hid
    · exact .kept hid
  | edited hold hc hd _ hgrant => exact derives_insert hd (.edited hold hc hgrant) hid
  | cast hold hm hc hd _ => exact derives_insert hd (.cast hold hm hc) hid

/-! ## Runs -/

/-- What every call gives to the documents that come from documents with it, all documents of a
reachable store have. -/
theorem ReachableBy.forall_document {kind : Action → Prop} {h : Hierarchy} {strict : Bool}
    {P : Document → Prop} (hs : ReachableBy kind h strict s)
    (hcall : ∀ {s : Store} {a : Action} {id : String} {doc : Document},
      ReachableBy kind h strict s → kind a →
      (∀ id doc, s.documents.get? id = some doc → P doc) → s.Derives a id doc → P doc) :
    ∀ id doc, s.documents.get? id = some doc → P doc := by
  induction hs with
  | empty =>
    intro id doc hid
    cases hid
  | step hs ha ih =>
    intro id doc hid
    exact hcall hs ha ih ((hs.performs _).derives hid)

variable {kind bad : Action → Prop} {h : Hierarchy} {strict : Bool}

theorem ReachableBy.mono {kind' : Action → Prop} (hk : ∀ a, kind a → kind' a)
    (hs : ReachableBy kind h strict s) : ReachableBy kind' h strict s := by
  induction hs with
  | empty => exact .empty
  | step hs ha ih => exact ih.step (hk _ ha)

theorem ReachableSparing.reachable (hs : ReachableSparing kind bad h strict id s) :
    ReachableBy kind h strict s := by
  induction hs with
  | absent hs _ => exact hs
  | step _ ha _ ih => exact ih.step ha

/-- Where no call of the kind is bad, the documents have been spared the bad ones. -/
theorem ReachableBy.sparing (hk : ∀ a, kind a → ¬ bad a) (hs : ReachableBy kind h strict s) :
    ReachableSparing kind bad h strict id s := by
  induction hs with
  | empty => exact .absent .empty rfl
  | step _ ha ih => exact ih.step ha fun hb => absurd hb (hk _ ha)

/-- What the calls that are not bad give to the document with an id, it has if it has been spared
the bad ones. -/
theorem ReachableSparing.forall_document {P : Document → Prop}
    (hcall : ∀ {s : Store} {a : Action} {doc : Document}, ReachableBy kind h strict s →
      kind a → ¬ bad a → (∀ doc, s.documents.get? id = some doc → P doc) →
      s.Derives a id doc → P doc) (hs : ReachableSparing kind bad h strict id s) :
    ∀ doc, s.documents.get? id = some doc → P doc := by
  induction hs with
  | absent _ hnone =>
    intro doc hid
    rw [hnone] at hid
    cases hid
  | @step s a hs ha hb ih =>
    intro doc hid
    have hp := hs.reachable.performs a
    by_cases href : s.Refuses a
    · obtain ⟨fault, hf⟩ := href
      rw [hf] at hp
      rw [hp.unchanged] at hid
      exact ih doc hid
    · exact hcall hs.reachable ha (fun hbad => href (hb hbad)) ih (hp.derives hid)

end TypedDocs.Store
