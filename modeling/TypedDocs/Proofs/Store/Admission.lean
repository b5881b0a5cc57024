import TypedDocs.Store.Change
import TypedDocs.Proofs.Edit.Identity

/-!
# What the store admits

A document that is loaded or created is identified: its id is the one it is stored under, its
class is a class of the hierarchy, and its mixins can be applied to it.  Documents that are there
before a load are there after it.

    checkAdmissible h doc = .ok () → doc.Identified h (Document.id doc)
                                                              (identified_of_checkAdmissible)
    s.newDocument classId values id = .ok (doc, c) → doc.Identified s.hierarchy id
                                                              (identified_newDocument)
-/

namespace TypedDocs

/-! ## Definition -/

/-- The identity of a document that is stored under an id. -/
structure Document.Identified (h : Hierarchy) (id : String) (doc : Document) : Prop where
  id : doc.get? Document.idKey = some (.string id)
  tag : ∃ c, doc.get? Document.classKey = some (.string c.id) ∧ h.find? c.id = some c ∧
    c.kind = .concrete
  mixins : ∀ value, doc.get? Document.mixinsKey = some value →
    ∃ items, value = .array items ∧
      ∀ item ∈ items, ∃ mixin, item = .string mixin ∧ h.Applies (Document.className doc) mixin

/-! ## Identity fields -/

namespace Document

variable {h : Hierarchy} {doc doc' : Document}

theorem tag?_eq_some_iff {tag : String} :
    tag? doc = some tag ↔ doc.get? classKey = some (.string tag) := by
  rw [tag?, Option.bind_eq_some_iff]
  constructor
  · rintro ⟨value, hv, ht⟩
    cases value with
    | string s =>
      cases ht
      exact hv
    | _ => cases ht
  · intro hv
    exact ⟨_, hv, rfl⟩

theorem className_of_tag? {tag : String} (ht : tag? doc = some tag) : className doc = tag := by
  rw [className, ht]
  rfl

theorem validate_eq_ok (hv : validate doc = .ok ()) :
    doc.get? idKey = some (.string (id doc)) ∧ tag? doc = some (className doc) := by
  rw [validate, flaw?] at hv
  cases hid : doc.get? idKey with
  | none => simp [hid] at hv
  | some value =>
    cases value with
    | string text =>
      cases htag : tag? doc with
      | none => simp [hid, htag] at hv
      | some tag => exact ⟨by simp [id, hid, Value.string?], by rw [className_of_tag? htag]⟩
    | _ => simp [hid] at hv

/-- A valid document of a class with applicable mixins is identified. -/
theorem identified_of_validate (hv : validate doc = .ok ()) {c : Classifier}
    (hc : h.find? (className doc) = some c) (hk : c.kind = .concrete)
    (hm : ∀ value, doc.get? mixinsKey = some value →
      h.checkMixins (className doc) value = .ok ()) : doc.Identified h (id doc) := by
  obtain ⟨hid, htag⟩ := validate_eq_ok hv
  refine ⟨hid, ⟨c, ?_, ?_, hk⟩, fun value hval => ?_⟩
  · rw [Hierarchy.id_of_find? hc, ← tag?_eq_some_iff, htag]
  · rw [Hierarchy.id_of_find? hc, hc]
  · exact Hierarchy.checkMixins_eq_ok_iff.1 (hm value hval)

theorem Identified.id_eq {id : String} (hd : doc.Identified h id) : Document.id doc = id := by
  simp [Document.id, hd.id, Value.string?]

theorem Identified.tag?_eq {id : String} (hd : doc.Identified h id) :
    tag? doc = some (className doc) := by
  obtain ⟨c, htag, -, -⟩ := hd.tag
  have ht := tag?_eq_some_iff.2 htag
  rw [ht, className_of_tag? ht]

/-- The class of an identified document, found under its name. -/
theorem Identified.tag_className {id : String} (hd : doc.Identified h id) :
    ∃ c, doc.get? classKey = some (.string (className doc)) ∧
      h.find? (className doc) = some c ∧ c.kind = .concrete := by
  obtain ⟨c, htag, hfind, hk⟩ := hd.tag
  have hname : className doc = c.id := className_of_tag? (tag?_eq_some_iff.2 htag)
  rw [hname]
  exact ⟨c, htag, hfind, hk⟩

theorem Identified.validate {id : String} (hd : doc.Identified h id) :
    Document.validate doc = .ok () := by
  rw [Document.validate, flaw?, hd.id, hd.tag?_eq]
  cases hm : doc.get? mixinsKey with
  | none => rfl
  | some value =>
    obtain ⟨items, rfl, -⟩ := hd.mixins value hm
    rfl

theorem SameIdentity.className_eq {classId : String} (hs : SameIdentity h classId doc doc') :
    className doc' = className doc := by
  rw [className, className, tag?, tag?, hs.tag]

/-- A document with the same identity as an identified one is identified. -/
theorem Identified.of_sameIdentity {id : String} (hd : doc.Identified h id)
    (hs : SameIdentity h (className doc) doc doc') : doc'.Identified h id := by
  refine ⟨hs.id.trans hd.id, ?_, fun value hval => ?_⟩
  · obtain ⟨c, htag, hc, hk⟩ := hd.tag
    exact ⟨c, hs.tag.trans htag, hc, hk⟩
  · rw [hs.className_eq]
    rcases hs.mixins with he | ⟨new, he, hnew⟩
    · exact hd.mixins value (he ▸ hval)
    · rw [hval] at he
      cases he
      exact Hierarchy.checkMixins_eq_ok_iff.1 hnew

end Document

namespace Store

variable {h : Hierarchy} {s : Store} {d d' : Documents} {id : String} {doc : Document}

/-! ## Loading -/

theorem identified_of_checkAdmissible (hc : checkAdmissible h doc = .ok ()) :
    doc.Identified h (Document.id doc) := by
  unfold checkAdmissible at hc
  obtain ⟨u, hv, hc⟩ := bind_eq_ok_iff.1 hc
  obtain ⟨c, hget, hc⟩ := bind_eq_ok_iff.1 hc
  have hfind := Hierarchy.get_eq_ok_iff.1 hget
  cases hk : c.kind with
  | mixin => simp [hk] at hc
  | concrete =>
    refine Document.identified_of_validate hv hfind hk fun value hval => ?_
    simpa [hk, hval] using hc

/-- Admissible documents are the identified ones. -/
theorem checkAdmissible_eq_ok_iff :
    checkAdmissible h doc = .ok () ↔ doc.Identified h (Document.id doc) := by
  refine ⟨identified_of_checkAdmissible, fun hd => ?_⟩
  obtain ⟨c, -, hfind, hk⟩ := hd.tag_className
  have hget : h.get (Document.className doc) = .ok c := Hierarchy.get_eq_ok_iff.2 hfind
  unfold checkAdmissible
  rw [hd.validate, ok_bind, hget, ok_bind]
  simp only [hk, ne_eq, not_true_eq_false, if_false, pure_eq_ok]
  cases hm : doc.get? Document.mixinsKey with
  | none => rfl
  | some value => exact Hierarchy.checkMixins_eq_ok_iff.2 (hd.mixins value hm)

/-- Documents are loaded exactly when each is identified, and their ids are new and all different;
they are then written under their ids. -/
theorem stage_eq_ok_iff {docs : List Document} :
    stage h d docs = .ok d' ↔
      (∀ doc ∈ docs, doc.Identified h (Document.id doc) ∧ d.get? (Document.id doc) = none) ∧
        (docs.map Document.id).Nodup ∧
        d'.entries = d.entries.overlay (docs.map fun doc => (Document.id doc, doc)) := by
  induction docs generalizing d with
  | nil =>
    simp only [stage, Except.ok.injEq, List.not_mem_nil, false_imp_iff, implies_true,
      List.map_nil, List.nodup_nil, true_and, Keyed.overlay, List.foldl_nil]
    constructor
    · intro he
      rw [he]
    · intro he
      exact Documents.eq_of_entries he.symm
  | cons doc rest ih =>
    have hoverlay : d.entries.overlay ((doc :: rest).map fun doc => (Document.id doc, doc)) =
        (d.insert (Document.id doc) doc).entries.overlay
          (rest.map fun doc => (Document.id doc, doc)) := rfl
    rw [stage, List.forall_mem_cons, List.map_cons, List.nodup_cons, hoverlay]
    constructor
    · intro hs
      obtain ⟨u, hadm, hs⟩ := bind_eq_ok_iff.1 hs
      cases hc : d.contains (Document.id doc) with
      | true => simp [hc] at hs
      | false =>
        have hnew := Documents.contains_eq_false_iff.1 hc
        have hrest : stage h (d.insert (Document.id doc) doc) rest = .ok d' := by
          simpa [hc] using hs
        obtain ⟨hall, hnodup, hentries⟩ := ih.1 hrest
        have hother : ∀ other ∈ rest,
            Document.id other ≠ Document.id doc ∧ d.get? (Document.id other) = none := by
          intro other ho
          have hnone := (hall other ho).2
          rw [Documents.get?_insert] at hnone
          split at hnone
          · cases hnone
          · next hne => exact ⟨hne, hnone⟩
        refine ⟨⟨⟨checkAdmissible_eq_ok_iff.1 hadm, hnew⟩, ?_⟩, ⟨?_, hnodup⟩, hentries⟩
        · intro other ho
          exact ⟨(hall other ho).1, (hother other ho).2⟩
        · intro hm
          obtain ⟨other, ho, he⟩ := List.mem_map.1 hm
          exact (hother other ho).1 he
    · rintro ⟨⟨⟨hd, hnew⟩, hall⟩, ⟨hnotin, hnodup⟩, hentries⟩
      have hrest : stage h (d.insert (Document.id doc) doc) rest = .ok d' := by
        refine ih.2 ⟨fun other ho => ⟨(hall other ho).1, ?_⟩, hnodup, hentries⟩
        rw [Documents.get?_insert, if_neg, (hall other ho).2]
        intro he
        exact hnotin (he ▸ List.mem_map_of_mem ho)
      rw [checkAdmissible_eq_ok_iff.2 hd, ok_bind]
      simpa [Documents.contains_eq_false_iff.2 hnew] using hrest

/-- What stands under an id after a load was there, or is a loaded document. -/
theorem get?_stage {docs : List Document} (hs : stage h d docs = .ok d')
    (hid : d'.get? id = some doc) : d.get? id = some doc ∨ doc ∈ docs ∧ Document.id doc = id := by
  obtain ⟨-, -, hentries⟩ := stage_eq_ok_iff.1 hs
  have hm := Documents.get?_eq_some_iff.1 hid
  rw [hentries] at hm
  rcases Keyed.mem_overlay hm with hm | hm
  · exact .inl (Documents.get?_eq_some_iff.2 hm)
  · obtain ⟨loaded, hl, he⟩ := List.mem_map.1 hm
    cases he
    exact .inr ⟨hl, rfl⟩

/-- A load keeps the documents that are there, and adds identified ones. -/
theorem stage_spec {docs : List Document} (hs : stage h d docs = .ok d') :
    (∀ id doc, d.get? id = some doc → d'.get? id = some doc) ∧
      ∀ id doc, d'.get? id = some doc →
        d.get? id = some doc ∨ d.get? id = none ∧ doc.Identified h id := by
  obtain ⟨hall, hnodup, hentries⟩ := stage_eq_ok_iff.1 hs
  refine ⟨fun id doc hid => ?_, fun id doc hid => ?_⟩
  · rw [Documents.get?, hentries, Keyed.get?_overlay_of_not_mem]
    · exact hid
    · intro hm
      rw [List.map_map] at hm
      obtain ⟨loaded, hl, he⟩ := List.mem_map.1 hm
      have hnone : d.get? id = none := he ▸ (hall loaded hl).2
      rw [hid] at hnone
      cases hnone
  · rcases get?_stage hs hid with hid | ⟨hm, rfl⟩
    · exact .inl hid
    · exact .inr ⟨(hall doc hm).2, (hall doc hm).1⟩

/-! ## Creation -/

/-- What has been checked about a new document. -/
theorem checkNew_eq_ok {h : Hierarchy} {concrete : String} {u : Unit}
    (hc : checkNew h concrete id doc = .ok u) :
    Document.validate doc = .ok () ∧ Document.id doc = id ∧ Document.className doc = concrete ∧
      ∀ value, doc.get? Document.mixinsKey = some value → h.checkMixins concrete value = .ok () := by
  unfold checkNew at hc
  obtain ⟨_, hv, hc⟩ := bind_eq_ok_iff.1 hc
  by_cases hid : Document.id doc = id
  · by_cases hclass : Document.className doc = concrete
    · refine ⟨hv, hid, hclass, fun value hval => ?_⟩
      simpa [hid, hclass, hval] using hc
    · simp [hid, hclass] at hc
  · simp [hid] at hc

/-- What has been checked about a document that is created. -/
theorem newDocument_eq_ok {classId concrete : String} {values : Layout}
    (hn : s.newDocument classId values id = .ok (doc, concrete)) :
    s.hierarchy.concreteClass classId = .ok concrete ∧
      Assignment.assign s.hierarchy s.strict classId
        (blankDocument s.hierarchy classId concrete id) values = .ok doc ∧
      Document.validate doc = .ok () ∧ Document.id doc = id ∧
      Document.className doc = concrete ∧
      ∀ value, doc.get? Document.mixinsKey = some value →
        s.hierarchy.checkMixins concrete value = .ok () := by
  unfold newDocument at hn
  obtain ⟨base, hbase, hn⟩ := bind_eq_ok_iff.1 hn
  cases ha : Assignment.assign s.hierarchy s.strict classId
      (blankDocument s.hierarchy classId base id) values with
  | error failure =>
    simp only [ha] at hn
    cases hn
  | ok made =>
    simp only [ha] at hn
    obtain ⟨u, hc, hn⟩ := bind_eq_ok_iff.1 hn
    cases hn
    exact ⟨hbase, ha, checkNew_eq_ok hc⟩

theorem identified_newDocument {classId concrete : String} {values : Layout}
    (hn : s.newDocument classId values id = .ok (doc, concrete)) :
    doc.Identified s.hierarchy id := by
  obtain ⟨hbase, -, hv, hid, hclass, hm⟩ := newDocument_eq_ok hn
  obtain ⟨c, hc, hk⟩ := Hierarchy.find?_concreteClass hbase
  rw [← hid]
  exact Document.identified_of_validate hv (by rw [hclass, hc]) hk fun value hval => by
    rw [hclass]
    exact hm value hval

end Store

end TypedDocs
