import TypedDocs.Pattern.Basic
import TypedDocs.Proofs.Store.Substitution

/-!
# Casts

A cast applies a mixin to a stored document, once: it is refused unless the class of the document
extends the nearest class of the mixin, and else it adds the mixin behind those that are there,
unless it is one of them.  The document is then in the scope of the mixin, and so in the scope of
all that the mixin extends.

    (∃ results, (s.cast id m []).result = .ok results) ↔ h.Applies (className doc) m (exists_cast_iff)
    (s.step (.cast id m [])).step (.cast id m []) = s.step (.cast id m [])            (step_step_cast)
    h.isSubtype m a → inScope h a (doc.addMixin m)                                 (inScope_addMixin)
-/

namespace TypedDocs

/-! ## Documents with a mixin added -/

namespace Document

variable {h : Hierarchy} {doc : Document} {id mixin : String}

theorem get?_addMixin_of_ne (doc : Document) (mixin : String) {key : String}
    (hk : key ≠ mixinsKey) : (doc.addMixin mixin).get? key = doc.get? key := by
  rcases addMixin_cases doc mixin with he | ⟨items, he, -⟩
  · rw [he]
  · rw [he, Keyed.get?_insert_of_ne doc _ hk]

theorem className_addMixin (doc : Document) (mixin : String) :
    className (doc.addMixin mixin) = className doc := by
  rw [className, className, tag?, tag?, get?_addMixin_of_ne doc mixin (by decide)]

theorem mem_mixins_addMixin (doc : Document) (mixin : String) :
    mixin ∈ mixins (doc.addMixin mixin) := by
  rw [mixins_addMixin]
  split
  · next happ => exact List.contains_iff_mem.1 happ
  · exact List.mem_append_right _ List.mem_cons_self

theorem addMixin_addMixin (doc : Document) (mixin : String) :
    (doc.addMixin mixin).addMixin mixin = doc.addMixin mixin :=
  Store.addMixin_of_hasMixin (List.contains_iff_mem.2 (mem_mixins_addMixin doc mixin))

/-- The mixins of an identified document that has some are what stands under their key. -/
theorem Identified.get?_mixinsKey (hd : doc.Identified h id) (hm : Document.mixins doc ≠ []) :
    doc.get? mixinsKey = some (.array ((Document.mixins doc).map .string)) := by
  cases hvalue : doc.get? mixinsKey with
  | none => simp [Document.mixins, hvalue] at hm
  | some value =>
    obtain ⟨items, rfl, hitems⟩ := hd.mixins value hvalue
    have htexts : (items.filterMap Value.string?).map .string = items := by
      rw [List.map_filterMap]
      refine (List.filterMap_congr fun item hitem => ?_).trans List.filterMap_some
      obtain ⟨text, rfl, -⟩ := hitems item hitem
      rfl
    simp only [Document.mixins, hvalue, htexts]

/-- The mixins of a document that is identified with a mixin added. -/
theorem Identified.get?_mixinsKey_addMixin (hd : (doc.addMixin mixin).Identified h id) :
    (doc.addMixin mixin).get? mixinsKey =
      some (.array ((if mixin ∈ Document.mixins doc then Document.mixins doc
        else Document.mixins doc ++ [mixin]).map .string)) := by
  rw [hd.get?_mixinsKey (List.ne_nil_of_mem (mem_mixins_addMixin doc mixin)), mixins_addMixin]
  simp only [hasMixin, List.contains_iff_mem]

/-- A document whose class extends the nearest class of a mixin is, with the mixin added, in the
scope of all that the mixin extends. -/
theorem inScope_addMixin {ancestor above : String} (hm : h.Applies (className doc) mixin)
    (hsub : h.isSubtype mixin ancestor = true) (ha : h.concreteClass ancestor = .ok above) :
    Query.inScope h ancestor (doc.addMixin mixin) = true := by
  obtain ⟨-, base, hb, hclass⟩ := hm
  have hbase : h.isSubtype base above = true :=
    Hierarchy.isSubtype_concreteClass_ancestor hb ha hsub
  refine (Query.inScope_iff ha).2 ⟨?_, fun _ => ⟨mixin, mem_mixins_addMixin doc mixin, hsub⟩⟩
  rw [className_addMixin]
  exact Hierarchy.isSubtype_trans hclass hbase

end Document

/-! ## Casts of a reachable store -/

namespace Store

open Query

section Engine

variable {ρ : Type} [Pattern.Engine ρ]
variable {h : Hierarchy} {strict : Bool} {s : Store} {id mixin : String} {doc : Document}

theorem exists_cast_iff (hs : Reachable h strict s) (hid : s.documents.get? id = some doc)
    (mixin : String) :
    (∃ results, (s.cast id mixin []).result = .ok results) ↔
      h.Applies (Document.className doc) mixin := by
  constructor
  · rintro ⟨results, hr⟩
    by_contra hm
    rw [← hs.hierarchy_eq] at hm
    obtain ⟨fault, hcast⟩ := cast_of_not_applies hid hm []
    rw [hcast] at hr
    cases hr
  · intro hm
    rw [← hs.hierarchy_eq] at hm
    obtain ⟨c, hc, -⟩ := Hierarchy.isMixin_eq_true_iff.1 hm.1
    exact ⟨_, (cast_of_applies hs.faithful hid hm hc []).1⟩

/-- A cast without edits gives the view of the document with the mixin added, and stores it. -/
theorem cast_nil (hs : Reachable h strict s) (hid : s.documents.get? id = some doc)
    (hm : h.Applies (Document.className doc) mixin) {c : Classifier}
    (hc : h.find? mixin = some c) :
    (s.cast id mixin []).result = .ok ([], ⟨AccessorTable.of h c, doc.addMixin mixin⟩) ∧
      s.step (.cast id mixin []) =
        { s with
          views := (s.views.table h mixin).2.1
          documents := s.documents.insert id (doc.addMixin mixin) } := by
  have hh := hs.hierarchy_eq
  rw [← hh] at hm hc
  obtain ⟨hr, hstore⟩ := cast_of_applies hs.faithful hid hm hc []
  rw [step, perform, Reply.map, hr, hstore, hh]
  exact ⟨rfl, rfl⟩

/-- The store that an accepted cast leads to holds the document with the mixin added. -/
theorem stored_cast (hs : Reachable h strict s) (hid : s.documents.get? id = some doc)
    (hm : h.Applies (Document.className doc) mixin) :
    (s.step (.cast id mixin [])).documents.get? id = some (doc.addMixin mixin) := by
  obtain ⟨c, hc, -⟩ := Hierarchy.isMixin_eq_true_iff.1 hm.1
  rw [(cast_nil hs hid hm hc).2, Documents.get?_insert_self]

theorem reachable_cast (hs : Reachable h strict s) (id mixin : String) :
    Reachable h strict (s.step (.cast id mixin [])) :=
  hs.step fun e he => by cases he

/-- A second cast finds the document with the mixin, and its table: it gives the same view. -/
theorem step_step_cast (hs : Reachable h strict s) (hid : s.documents.get? id = some doc)
    (hm : h.Applies (Document.className doc) mixin) :
    ((s.step (.cast id mixin [])).cast id mixin []).result = (s.cast id mixin []).result ∧
      (s.step (.cast id mixin [])).step (.cast id mixin []) = s.step (.cast id mixin []) := by
  obtain ⟨c, hc, -⟩ := Hierarchy.isMixin_eq_true_iff.1 hm.1
  obtain ⟨hr, hstep⟩ := cast_nil hs hid hm hc
  have hm' : h.Applies (Document.className (doc.addMixin mixin)) mixin := by
    rwa [Document.className_addMixin]
  obtain ⟨hr', hstep'⟩ := cast_nil (reachable_cast hs id mixin) (stored_cast hs hid hm) hm' hc
  constructor
  · rw [hr', hr, Document.addMixin_addMixin]
  · rw [hstep', hstep]
    simp only [Documents.insert_insert, Document.addMixin_addMixin, Views.table_table]

/-! ## Main statement -/

/-- A cast of a stored document succeeds exactly when the mixin applies to its class.  It then
stores the document with the mixin behind those that were there, unless it was one of them, and
with all else as it was; a second cast gives the same view and leaves the store; and the document
is found for all that the mixin extends. -/
theorem cast_applies_once (hs : Reachable h strict s) (hid : s.documents.get? id = some doc)
    (mixin : String) :
    ((∃ results, (s.cast id mixin []).result = .ok results) ↔
      h.isMixin mixin = true ∧ ∃ base, h.concreteClass mixin = .ok base ∧
        h.isSubtype (Document.className doc) base = true) ∧
    ∀ results, (s.cast id mixin []).result = .ok results → ∃ doc' : Document,
      results.2.layout = doc' ∧
      (s.step (.cast id mixin [])).documents = s.documents.insert id doc' ∧
      doc'.get? Document.mixinsKey =
        some (.array ((if mixin ∈ Document.mixins doc then Document.mixins doc
          else Document.mixins doc ++ [mixin]).map .string)) ∧
      (∀ key, key ≠ Document.mixinsKey → doc'.get? key = doc.get? key) ∧
      ((s.step (.cast id mixin [])).cast id mixin []).result = .ok results ∧
      (s.step (.cast id mixin [])).step (.cast id mixin []) = s.step (.cast id mixin []) ∧
      ∀ ancestor above, h.isSubtype mixin ancestor = true →
        h.concreteClass ancestor = .ok above →
        ∃ found, ((s.step (.cast id mixin [])).find ancestor []).result = .ok found ∧
          doc' ∈ found := by
  have hiff := exists_cast_iff hs hid mixin
  refine ⟨hiff, fun results hr => ?_⟩
  have hm := hiff.1 ⟨results, hr⟩
  obtain ⟨c, hc, -⟩ := Hierarchy.isMixin_eq_true_iff.1 hm.1
  obtain ⟨hview, hstep⟩ := cast_nil hs hid hm hc
  obtain ⟨hagain, hsame⟩ := step_step_cast hs hid hm
  have hid' := stored_cast hs hid hm
  have hs' := reachable_cast hs id mixin
  refine ⟨doc.addMixin mixin, ?_, ?_, (hs'.identified id _ hid').get?_mixinsKey_addMixin,
    fun key hk => Document.get?_addMixin_of_ne doc mixin hk, hagain.trans hr, hsame, ?_⟩
  · rw [hview] at hr
    obtain rfl := Except.ok.inj hr
    rfl
  · rw [hstep]
  · intro ancestor above hsub ha
    have hmem : doc.addMixin mixin ∈ (s.step (.cast id mixin [])).toList :=
      Documents.mem_toList_iff.2 ⟨id, hid'⟩
    have hscope := Document.inScope_addMixin hm hsub ha
    exact ⟨_, find_nil hs' ha, List.mem_filter.2 ⟨hmem, hscope⟩⟩

end Engine

/-- A task that is cast to its estimates has them applied, and is found for the class above. -/
theorem cast_applies_once_task :
    ∃ doc doc' found, Reachable .tasks false ((empty .tasks false).step (.create "Task" [] "t1")) ∧
      ((empty .tasks false).step (.create "Task" [] "t1")).documents.get? "t1" = some doc ∧
      doc'.get? Document.mixinsKey = some (.array [.string "Estimate"]) ∧
      (((empty .tasks false).run [.create "Task" [] "t1", .cast "t1" "Estimate" []]).find
        "Doc" []).result = .ok found ∧ doc' ∈ found := by
  have hv : Action.Ordered (.create "Task" [] "t1") := by decide
  have hs : Reachable .tasks false ((empty .tasks false).step (.create "Task" [] "t1")) :=
    ReachableBy.empty.step hv
  obtain ⟨doc, hid, hmixins⟩ : ∃ doc,
      ((empty .tasks false).step (.create "Task" [] "t1")).documents.get? "t1" = some doc ∧
        Document.mixins doc = [] := ⟨_, rfl, rfl⟩
  obtain ⟨results, hr⟩ : ∃ results,
      (((empty .tasks false).step (.create "Task" [] "t1")).cast "t1" "Estimate" []).result =
        .ok results := ⟨_, rfl⟩
  obtain ⟨-, hcast⟩ := cast_applies_once hs hid "Estimate"
  obtain ⟨doc', -, -, hkey, -, -, -, hfound⟩ := hcast results hr
  obtain ⟨found, hresult, hdoc⟩ := hfound "Doc" "Doc" (by decide) rfl
  rw [hmixins] at hkey
  exact ⟨doc, doc', found, hs, hid, hkey, hresult, hdoc⟩

end Store

end TypedDocs
