import TypedDocs.Pattern.Basic
import TypedDocs.Proofs.Store.Scopes

/-!
# Scopes of classifiers that extend one another

Where one classifier extends another, the nearest classes of the two do so as well.  So what is found
for the one is found for the other, with one exception: a class may extend a mixin, and a document of
the class is in the scope of the mixin only when the mixin, or one that extends it, is applied to it.

    h.isSubtype id ancestor → doc ∈ (s.find id []) → doc ∈ (s.find ancestor [])
                                      unless `id` is a class and `ancestor` a mixin
                                                                            (found_for_ancestor)
-/

namespace TypedDocs

/-! ## Nearest classes -/

namespace Hierarchy

variable {h : Hierarchy} {id ancestor base above : String}

/-- The nearest class of an ancestor is on the chain, and a class, so that the nearest class of
the chain extends it. -/
theorem isSubtype_concreteClass_ancestor (hb : h.concreteClass id = .ok base)
    (ha : h.concreteClass ancestor = .ok above) (hs : h.isSubtype id ancestor = true) :
    h.isSubtype base above = true := by
  have hchain : h.isSubtype id above = true := isSubtype_trans hs (isSubtype_concreteClass ha)
  obtain ⟨c, hc, rfl⟩ := isSubtype_iff.1 hchain
  obtain ⟨k, hk, hkind⟩ := find?_concreteClass ha
  obtain rfl := eq_of_mem_ancestors hc hk
  exact isSubtype_of_concreteClass hb hc hkind

end Hierarchy

/-! ## Scopes -/

namespace Query

variable {h : Hierarchy} {id ancestor base above : String} {doc : Document}

/-- One rule for both kinds of classifiers: the class of a document extends the nearest class, and
what a mixin asks for is applied. -/
theorem inScope_iff (hb : h.concreteClass id = .ok base) :
    inScope h id doc = true ↔ h.isSubtype (Document.className doc) base = true ∧
      (h.isMixin id = true → ∃ m ∈ Document.mixins doc, h.isSubtype m id = true) := by
  by_cases hm : h.isMixin id = true
  · simp [inScope, hm, hb]
  · obtain ⟨⟨c, hc⟩, -⟩ := Hierarchy.find?_of_isSubtype (Hierarchy.isSubtype_concreteClass hb)
    have hkind := Hierarchy.kind_of_isMixin_eq_false (by simpa using hm) hc
    have hself : base = id := by
      rw [Hierarchy.concreteClass_self hc hkind] at hb
      exact (Except.ok.inj hb).symm
    subst hself
    simp [inScope, hm]

/-- What is in the scope of a classifier is in that of an ancestor unless a mixin is missing that
only the ancestor asks for. -/
theorem inScope_ancestor_iff (hb : h.concreteClass id = .ok base)
    (ha : h.concreteClass ancestor = .ok above) (hs : h.isSubtype id ancestor = true)
    (hin : inScope h id doc = true) :
    inScope h ancestor doc = true ↔ h.isMixin id = true ∨ h.isMixin ancestor = false ∨
      ∃ m ∈ Document.mixins doc, h.isSubtype m ancestor = true := by
  obtain ⟨hclass, hmixin⟩ := (inScope_iff hb).1 hin
  have habove : h.isSubtype (Document.className doc) above = true :=
    Hierarchy.isSubtype_trans hclass (Hierarchy.isSubtype_concreteClass_ancestor hb ha hs)
  rw [inScope_iff ha]
  constructor
  · rintro ⟨-, happlied⟩
    by_cases hm : h.isMixin ancestor = true
    · exact .inr (.inr (happlied hm))
    · exact .inr (.inl (by simpa using hm))
  · rintro (hid | hancestor | happlied)
    · obtain ⟨m, hm, hsub⟩ := hmixin hid
      exact ⟨habove, fun _ => ⟨m, hm, Hierarchy.isSubtype_trans hsub hs⟩⟩
    · refine ⟨habove, ?_⟩
      intro hm
      rw [hancestor] at hm
      cases hm
    · exact ⟨habove, fun _ => happlied⟩

end Query

/-! ## Searches -/

namespace Store

open Query

section Engine

variable {ρ : Type} [Pattern.Engine ρ]
variable {h : Hierarchy} {strict : Bool} {s : Store} {id ancestor base above : String}

/-- What is found for a classifier is found for those it extends, except that a document found for a
class that extends a mixin is found for the mixin exactly when this, or a mixin that extends it, is
applied to the document. -/
theorem found_for_ancestor (hs : Reachable h strict s) (hb : h.concreteClass id = .ok base)
    (ha : h.concreteClass ancestor = .ok above) (hsub : h.isSubtype id ancestor = true) :
    ∃ found all, (s.find id []).result = .ok found ∧ (s.find ancestor []).result = .ok all ∧
      ∀ doc ∈ found,
        (h.isMixin id = true ∨ h.isMixin ancestor = false → doc ∈ all) ∧
        (h.isMixin id = false → h.isMixin ancestor = true →
          (doc ∈ all ↔ ∃ m ∈ Document.mixins doc, h.isSubtype m ancestor = true)) := by
  refine ⟨_, _, find_nil hs hb, find_nil hs ha, ?_⟩
  intro doc hdoc
  obtain ⟨hmem, hin⟩ := List.mem_filter.1 hdoc
  have hiff := inScope_ancestor_iff hb ha hsub hin
  constructor
  · intro hkinds
    refine List.mem_filter.2 ⟨hmem, hiff.2 ?_⟩
    rcases hkinds with hid | hancestor
    · exact .inl hid
    · exact .inr (.inl hancestor)
  · intro hid hancestor
    rw [List.mem_filter, hiff, hid, hancestor]
    simp [hmem]

end Engine

/-- A task that is created through its mixin is found for the mixin, and for the class above. -/
theorem found_for_ancestor_estimate :
    ∃ doc found all, ((empty .tasks false).create "Estimate" [] "t1").result = .ok doc ∧
      (((empty .tasks false).step (.create "Estimate" [] "t1")).find "Estimate" []).result =
        .ok found ∧
      (((empty .tasks false).step (.create "Estimate" [] "t1")).find "Doc" []).result = .ok all ∧
      doc ∈ found ∧ doc ∈ all := by
  have hv : Action.Ordered (.create "Estimate" [] "t1") := by decide
  have hs : Reachable .tasks false ((empty .tasks false).step (.create "Estimate" [] "t1")) :=
    ReachableBy.empty.step hv
  have hb : Hierarchy.tasks.concreteClass "Estimate" = .ok "Task" := rfl
  have ha : Hierarchy.tasks.concreteClass "Doc" = .ok "Doc" := rfl
  obtain ⟨found, all, hfound, hall, hsubset⟩ := found_for_ancestor hs hb ha (by decide)
  obtain ⟨doc, hc⟩ : ∃ doc, ((empty .tasks false).create "Estimate" [] "t1").result = .ok doc :=
    ⟨_, rfl⟩
  have hdoc : doc ∈ found := by
    rw [find_nil hs hb] at hfound
    obtain rfl := Except.ok.inj hfound
    have hscope : inScope .tasks "Estimate" doc = true := by
      cases hc
      decide
    exact List.mem_filter.2 ⟨mem_toList_create ReachableBy.empty hc, hscope⟩
  exact ⟨doc, found, all, hc, hfound, hall, hdoc, (hsubset doc hdoc).1 (.inl (by decide))⟩

end Store

/-! ## A class that extends a mixin -/

/-- Tasks, their estimates, and plans, a class that extends the estimates. -/
def Hierarchy.plans : Hierarchy where
  classifiers :=
    [("Estimate", ⟨"Estimate", .mixin, some "Task", none, [⟨"hours", .number⟩]⟩),
     ("Plan", ⟨"Plan", .concrete, some "Estimate", none, []⟩),
     ("Task", ⟨"Task", .concrete, none, none, [⟨"name", .string⟩]⟩)]
  sorted := by decide
  named := by decide
  grounded := by decide

/-- A plan is found for its class, which extends the mixin, and not for the mixin. -/
theorem Store.exists_found_for_class_only :
    ∃ doc, ((empty .plans false).create "Plan" [] "p1").result = .ok doc ∧
      Reachable .plans false ((empty .plans false).step (.create "Plan" [] "p1")) ∧
      Hierarchy.plans.concreteClass "Plan" = .ok "Plan" ∧
      Hierarchy.plans.concreteClass "Estimate" = .ok "Task" ∧
      Hierarchy.plans.isSubtype "Plan" "Estimate" = true ∧
      (((empty .plans false).step (.create "Plan" [] "p1")).find "Plan" []).result = .ok [doc] ∧
      (((empty .plans false).step (.create "Plan" [] "p1")).find "Estimate" []).result =
        .ok [] := by
  have hv : Action.Ordered (.create "Plan" [] "p1") := by decide
  have hs : Reachable .plans false ((empty .plans false).step (.create "Plan" [] "p1")) :=
    ReachableBy.empty.step hv
  have hplan : Hierarchy.plans.concreteClass "Plan" = .ok "Plan" := rfl
  have hestimate : Hierarchy.plans.concreteClass "Estimate" = .ok "Task" := rfl
  refine ⟨_, rfl, hs, hplan, hestimate, by decide, ?_, ?_⟩
  · rw [find_nil hs hplan]
    rfl
  · rw [find_nil hs hestimate]
    rfl

end TypedDocs
