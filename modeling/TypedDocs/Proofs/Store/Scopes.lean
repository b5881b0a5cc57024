import TypedDocs.Pattern.Basic
import TypedDocs.Proofs.Store.Index
import TypedDocs.Proofs.Store.Mixins

/-!
# Where a created document is found

A search with an empty query finds the documents in its scope, all of them.  A document that is
created for a class is in its scope.  One that is created for a mixin has it applied, and is in its
scope, unless the values list other mixins: the list of the values stands in place of the mixin.

    (s.find c []).result = .ok (s.toList.filter (inScope h c))                        (find_nil)
    (s.create c values id).result = .ok doc → …                                   (find_created)
-/

namespace TypedDocs.Store

open Query

section Engine

variable {ρ : Type} [Pattern.Engine ρ]
variable {h : Hierarchy} {strict : Bool} {s : Store} {classId concrete id : String}
  {values : Layout} {doc : Document}

/-! ## Empty queries -/

theorem matchDocument_nil (h : Hierarchy) (classId : String) (doc : Document) :
    matchDocument h classId doc [] = .ok (inScope h classId doc) := by
  rw [matchDocument, matchFields]
  cases inScope h classId doc <;> rfl

/-- A search without conditions finds all that is in its scope. -/
theorem find_nil (hs : Reachable h strict s) (hb : h.concreteClass classId = .ok concrete) :
    (s.find classId []).result = .ok (s.toList.filter (inScope h classId)) := by
  have hmatch : isMatch h classId [] = inScope h classId := by
    funext doc
    rw [isMatch, matchDocument_nil]
    cases inScope h classId doc <;> rfl
  rw [result_find hs, scan, hs.hierarchy_eq, hb, ok_bind]
  exact matching_eq_ok_iff.2 ⟨fun doc _ => ⟨_, matchDocument_nil h classId doc⟩, by rw [hmatch]⟩

/-! ## Scopes of created documents -/

/-- A document of the concrete class of a mixin is in the scope of the mixin when it, or one that
extends it, is applied. -/
theorem inScope_of_isMixin (hm : h.isMixin classId = true)
    (hb : h.concreteClass classId = .ok concrete) (hc : Document.className doc = concrete) :
    inScope h classId doc = (Document.mixins doc).any fun m => h.isSubtype m classId := by
  obtain ⟨c, hfind, -⟩ := Hierarchy.find?_concreteClass hb
  simp [inScope, hm, hb, hc, Hierarchy.isSubtype_refl hfind]

theorem mem_toList_create (hs : Reachable h strict s)
    (hc : (s.create classId values id).result = .ok doc) :
    doc ∈ (s.step (.create classId values id)).toList := by
  have hp := hs.performs (.create classId values id)
  have hresult : (s.perform (.create classId values id)).result = .ok (.created doc) := by
    rw [perform, Reply.map, hc]
    rfl
  rw [hresult] at hp
  cases hp with
  | created hid hdoc hd hi =>
    have hget : (s.step (.create classId values id)).documents.get? id = some doc := by
      rw [hd, Documents.get?_insert_self]
    exact Documents.mem_toList_iff.2 ⟨id, hget⟩

/-! ## Main statement -/

/-- A document that is created for a class is found in its scope.  One that is created for a mixin
has it applied exactly when its values list no mixins or this one, and is found in its scope exactly
when they list none or one that extends it. -/
theorem find_created (hs : Reachable h strict s) (hv : values.Ordered)
    (hc : (s.create classId values id).result = .ok doc) :
    ∃ found, ((s.step (.create classId values id)).find classId []).result = .ok found ∧
      (h.isMixin classId = false → doc ∈ found) ∧
      (h.isMixin classId = true →
        (doc.hasMixin classId = true ↔
          values.contains Document.mixinsKey = false ∨
            Document.hasMixin values classId = true) ∧
        (doc ∈ found ↔ values.contains Document.mixinsKey = false ∨
          ∃ m ∈ Document.mixins values, h.isSubtype m classId = true)) := by
  obtain ⟨concrete, hn⟩ := newDocument_of_create hc
  obtain ⟨hb, -, -, -, hclass, -⟩ := newDocument_eq_ok hn
  have hmixins := mixins_newDocument hv hn
  rw [hs.hierarchy_eq] at hb hmixins
  have hafter : Reachable h strict (s.step (.create classId values id)) := hs.step hv
  have hmem := mem_toList_create hs hc
  refine ⟨_, find_nil hafter hb, fun hm => ?_, fun hm => ⟨?_, ?_⟩⟩
  · refine List.mem_filter.2 ⟨hmem, inScope_of_className hb hclass fun hmixin => ?_⟩
    rw [hm] at hmixin
    cases hmixin
  · rw [Document.hasMixin, Document.hasMixin, hmixins, if_pos hm]
    cases values.contains Document.mixinsKey <;> simp
  · obtain ⟨c, hfind, -⟩ := Hierarchy.isMixin_eq_true_iff.1 hm
    rw [List.mem_filter, inScope_of_isMixin hm hb hclass, hmixins, if_pos hm]
    cases values.contains Document.mixinsKey <;>
      simp [hmem, Hierarchy.isSubtype_refl hfind]

end Engine

theorem find_created_estimate :
    ∃ doc found, ((empty .tasks false).create "Estimate" [] "t1").result = .ok doc ∧
      (((empty .tasks false).step (.create "Estimate" [] "t1")).find "Estimate" []).result =
        .ok found ∧ doc.hasMixin "Estimate" = true ∧ doc ∈ found := by
  have hv : Layout.Ordered [] := by decide
  have hm : Hierarchy.isMixin .tasks "Estimate" = true := by decide
  obtain ⟨doc, hc⟩ : ∃ doc, ((empty .tasks false).create "Estimate" [] "t1").result = .ok doc :=
    ⟨_, rfl⟩
  obtain ⟨found, hfound, -, hmixin⟩ := find_created ReachableBy.empty hv hc
  obtain ⟨happlied, hmem⟩ := hmixin hm
  exact ⟨doc, found, hc, hfound, happlied.2 (.inl rfl), hmem.2 (.inl rfl)⟩

/-- A document that is created for a mixin from values with an empty list of mixins does not have
the mixin applied, and is not found in its scope. -/
theorem find_created_unlisted :
    ∃ doc, ((empty .tasks false).create "Estimate" [("_mixins", .array [])] "t1").result =
        .ok doc ∧
      Hierarchy.isMixin .tasks "Estimate" = true ∧ doc.hasMixin "Estimate" = false ∧
      (((empty .tasks false).step
        (.create "Estimate" [("_mixins", .array [])] "t1")).find "Estimate" []).result =
          .ok [] := by
  have hv : Action.Ordered (.create "Estimate" [("_mixins", .array [])] "t1") := by decide
  have hs : Reachable .tasks false ((empty .tasks false).step
      (.create "Estimate" [("_mixins", .array [])] "t1")) := ReachableBy.empty.step hv
  have hb : Hierarchy.tasks.concreteClass "Estimate" = .ok "Task" := rfl
  refine ⟨_, rfl, by decide, by decide, ?_⟩
  rw [find_nil hs hb]
  rfl

end TypedDocs.Store
