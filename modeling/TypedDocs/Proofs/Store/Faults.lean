import TypedDocs.Pattern.Basic
import TypedDocs.Proofs.Query.Faults
import TypedDocs.Proofs.Store.Index

/-!
# When a search fails

A search with a plain query, whose keys are internal or attributes of its scope, succeeds in every
reachable store, unless an embedded object is compared for a class that is not in the hierarchy:
then the fault names that class, which a stored object or an attribute names.

    Query.Plain (.object query) → (s.find classId query).result = .ok found  or
      .error (.notFound id), with `id` unknown                                     (find_plain)
-/

namespace TypedDocs.Store

section Engine

variable {ρ : Type} [Pattern.Engine ρ]
variable {h : Hierarchy} {strict : Bool} {s : Store} {classId : String} {query : Layout}

/-- A document fails a plain query by a class that it or an attribute names. -/
theorem matchDocument_fault {doc : Document} {fault : Fault}
    (hkeys : ∀ e ∈ query, Key.isInternal e.1 = true ∨ ∃ r, h.resolve classId e.1 = .ok r)
    (hq : Query.Plain (.object query))
    (hm : Query.matchDocument h classId doc query = .error fault) :
    Query.Strays h (fun id => id ∈ Value.fieldTags doc) fault := by
  rw [Query.matchDocument] at hm
  split at hm
  · rw [Query.Plain] at hq
    rcases Query.matchFields_fault doc query (fun t ht => ht) hq.2 hm with
      hstray | ⟨e, he, hint, hres⟩
    · exact hstray
    · rcases hkeys e he with hint' | ⟨r, hr⟩
      · rw [hint] at hint'
        cases hint'
      · rw [hres] at hr
        cases hr
  · cases hm

/-! ## Main statement -/

/-- A search with a plain query of attributes of its scope gives documents, or the fault that a
class which a stored embedded object or an attribute names is not in the hierarchy. -/
theorem find_plain {base : String} (hs : Reachable h strict s)
    (hbase : h.concreteClass classId = .ok base)
    (hkeys : ∀ e ∈ query, Key.isInternal e.1 = true ∨ ∃ r, h.resolve classId e.1 = .ok r)
    (hq : Query.Plain (.object query)) :
    (∃ found, (s.find classId query).result = .ok found) ∨
      ∃ id, (s.find classId query).result = .error (.notFound id) ∧ h.find? id = none ∧
        ((∃ doc ∈ s.toList, id ∈ Value.fieldTags doc) ∨ h.Declares id) := by
  have hscan : (s.find classId query).result = matching h classId query s.toList := by
    rw [result_find hs, scan, hs.hierarchy_eq, hbase, ok_bind]
  rw [hscan]
  cases hm : matching h classId query s.toList with
  | ok found => exact .inl ⟨found, rfl⟩
  | error fault =>
    obtain ⟨before, doc, after, hlist, -, hdoc⟩ := matching_eq_error_iff.1 hm
    obtain ⟨id, rfl, hnone, hnamed⟩ := matchDocument_fault hkeys hq hdoc
    refine .inr ⟨id, rfl, hnone, hnamed.imp_left fun ht => ⟨doc, ?_, ht⟩⟩
    rw [hlist]
    simp

end Engine

/-- In a store of tasks whose embedded objects name no class of their own, a search gives
documents. -/
theorem find_plain_estimated_task :
    ∃ found, (((empty .tasks false).run
      [.create "Estimate" [("hours", .null)] "t1"]).find "Estimate"
        [("hours", .object [("unit", .string "h")])]).result = .ok found := by
  have hbase : Hierarchy.tasks.concreteClass "Estimate" = .ok "Task" := rfl
  have hattr : ∃ r, Hierarchy.tasks.resolve "Estimate" "hours" = .ok r := ⟨_, rfl⟩
  have hplain : Query.Plain (.object [("hours", .object [("unit", .string "h")])]) := by
    simp [Query.Plain, Query.PlainFields, Query.pattern?, Keyed.get?, Key.namesMixin]
    decide
  have hdeclared : ∀ c ∈ Hierarchy.tasks.toList, ∀ a ∈ c.attributes,
      ∀ id ∈ a.type.elementClass, (Hierarchy.tasks.find? id).isSome = true := by decide
  have hnamed : ∀ doc ∈ ((empty .tasks false).run
      [.create "Estimate" [("hours", .null)] "t1"]).toList, Value.fieldTags doc = [] := by decide
  rcases find_plain reachable_estimated_task hbase (List.forall_mem_singleton.2 (.inr hattr))
      hplain with
    hfound | ⟨id, -, hnone, ⟨doc, hdoc, ht⟩ | ⟨c, hc, a, ha, he⟩⟩
  · exact hfound
  · rw [hnamed doc hdoc] at ht
    cases ht
  · have hknown := hdeclared c hc a ha id he
    rw [hnone] at hknown
    cases hknown

/-- An object under an internal key names its class itself, and a search that asks for a field of
it fails when there is no such class. -/
theorem find_unknown_class :
    (((empty .tasks false).run [.create "Task" [("_meta", .object [("_class", .string "Gone"),
        ("rev", .string "a")])] "t1"]).find "Task"
        [("_meta", .object [("rev", .string "a")])]).result = .error (.notFound "Gone") := by
  let part : Layout := [("_class", .string "Gone"), ("rev", .string "a")]
  let wanted : Layout := [("rev", .string "a")]
  let doc : Document :=
    [("_class", .string "Task"), ("_id", .string "t1"), ("_meta", .object part)]
  obtain ⟨made, hmade⟩ : ∃ made, made = (empty .tasks false).run
      [.create "Task" [("_meta", .object part)] "t1"] := ⟨_, rfl⟩
  have hreach : Reachable .tasks false made := by
    rw [hmade]
    refine ReachableBy.empty.step ?_
    rw [Action.Ordered, Layout.ordered_iff]
    exact ⟨by decide, by simp [Value.Ordered, Value.FieldsOrdered, part]; decide⟩
  have hlist : made.toList = [doc] := by
    rw [hmade]
    rfl
  have hscope : Query.inScope .tasks "Task" doc = true := by decide
  have hpart : Query.matchFields .tasks true "Gone" part wanted = .error (.notFound "Gone") := by
    rw [Query.matchFields]
    rfl
  have hvalue : Query.matchValue .tasks true none (.object part) (.object wanted) =
      .error (.notFound "Gone") := by
    have hpattern : Query.pattern? wanted = none := by decide
    have hclass : Hierarchy.tasks.embeddedClass none part = some "Gone" := by decide
    rw [Query.matchValue]
    simp only [hpattern, Option.isSome_none, Bool.false_eq_true, if_false, hclass, hpart]
    rfl
  have hdoc : Query.matchFields .tasks true "Task" doc [("_meta", .object wanted)] =
      .error (.notFound "Gone") := by
    have hinternal : Key.isInternal "_meta" = true := by decide
    have hget : doc.get? "_meta" = some (.object part) := rfl
    rw [Query.matchFields, hinternal]
    simp only [Value.isNull, Bool.false_eq_true, if_false, if_true]
    split
    · next hnone =>
      rw [hget] at hnone
      cases hnone
    · next value hv =>
      rw [hget] at hv
      cases hv
      rw [hvalue]
      rfl
  have hmatch : Query.matchDocument .tasks "Task" doc [("_meta", .object wanted)] =
      .error (.notFound "Gone") := by
    rw [Query.matchDocument, hscope, if_pos rfl, hdoc]
  have hfind : (made.find "Task" [("_meta", .object wanted)]).result =
      .error (.notFound "Gone") := by
    rw [result_find hreach, scan, hreach.hierarchy_eq, hlist]
    simp only [matching, hmatch]
    rfl
  rw [hmade] at hfind
  exact hfind

end TypedDocs.Store
