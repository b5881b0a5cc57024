import TypedDocs.Pattern.Basic
import TypedDocs.Proofs.Store.Transition

/-!
# All or nothing

A call that is refused leaves the documents of the store, and an edit that fails leaves the root
layout, or the view and the documents behind it.

    (s.perform a).result = .error fault → (s.step a).documents = s.documents    (unchanged_of_error)
-/

namespace TypedDocs

namespace Store

section Engine

variable {ρ : Type} [Pattern.Engine ρ]
variable {h : Hierarchy} {strict : Bool} {s s' : Store} {a : Action}

/-! ## Calls -/

theorem Performs.unchanged {fault : Fault} (hp : s.Performs a s' (.error fault)) :
    s'.documents = s.documents := by
  cases hp with
  | refused hd hi => exact hd
  | searched hd hi => exact hd

/-! ## Edits through views -/

/-- The calls that make edits through a view. -/
inductive ViewCall : (List ViewEdit → Action) → Prop where
  | editView (id classifier : String) : ViewCall (.editView id classifier)
  | cast (id mixin : String) : ViewCall (.cast id mixin)

/-- An edit that comes last and fails makes no difference to the store. -/
theorem editView_concat {id classifier : String} {edits : List ViewEdit} {e : ViewEdit}
    {results : ViewResults} {fault : Fault}
    (hr : (s.editView id classifier (edits ++ [e])).result = .ok results)
    (hf : results.1.getLast? = some (.error fault)) :
    (s.editView id classifier (edits ++ [e])).store = (s.editView id classifier edits).store := by
  simp only [editView] at hr ⊢
  cases hv : (s.view id classifier).result with
  | error reason => rfl
  | ok v =>
    simp only [hv, View.applyAll_concat] at hr ⊢
    cases hr
    rw [List.getLast?_concat, Option.some.injEq] at hf
    rw [View.apply_of_error hf]

theorem result_of_map {r : Reply ViewResults} {results : ViewResults}
    (hm : (r.map Action.Result.edited).result = .ok (.edited results)) :
    r.result = .ok results := by
  rw [Reply.map] at hm
  cases hr : r.result with
  | error reason =>
    rw [hr] at hm
    cases hm
  | ok made =>
    rw [hr] at hm
    cases hm
    rfl

theorem documents_concat {call : List ViewEdit → Action} (hc : ViewCall call)
    {edits : List ViewEdit} {e : ViewEdit} {results : ViewResults} {fault : Fault}
    (hr : (s.perform (call (edits ++ [e]))).result = .ok (.edited results))
    (hf : results.1.getLast? = some (.error fault)) :
    (s.step (call (edits ++ [e]))).documents = (s.step (call edits)).documents := by
  cases hc with
  | editView id classifier =>
    rw [step, step, perform, perform, Reply.map, Reply.map, editView_concat (result_of_map hr) hf]
  | cast id mixin =>
    have hcast := result_of_map hr
    simp only [step, perform, Reply.map, cast] at hcast ⊢
    cases hid : s.documents.get? id with
    | none => rfl
    | some doc =>
      simp only [hid] at hcast ⊢
      cases hcheck : s.hierarchy.checkMixin (Document.className doc) mixin with
      | error reason => rfl
      | ok u =>
        simp only [hcheck] at hcast ⊢
        cases happ : Document.hasMixin doc mixin with
        | true =>
          simp only [happ, if_true] at hcast ⊢
          rw [editView_concat hcast hf]
        | false =>
          simp only [happ, Bool.false_eq_true, if_false] at hcast ⊢
          rw [editView_concat hcast hf]

/-! ## Main statement -/

/-- Whatever a reachable store is asked, a refusal leaves its documents; so does an edit that fails
through a view, and an edit of a root layout that fails leaves the root. -/
theorem unchanged_of_error (hs : Reachable h strict s) :
    (∀ a fault, (s.perform a).result = .error fault → (s.step a).documents = s.documents) ∧
      (∀ call edits e results fault, ViewCall call →
        (s.perform (call (edits ++ [e]))).result = .ok (.edited results) →
        results.1.getLast? = some (.error fault) →
        (s.step (call (edits ++ [e]))).documents = (s.step (call edits)).documents) ∧
      ∀ classId selector root fault left,
        (∀ values, Edit.set h strict classId selector values root = .error fault left →
          left = root) ∧
        (∀ value, Edit.push h strict classId selector value root = .error fault left →
          left = root) ∧
        (Edit.pull h classId selector root = .error fault left → left = root) := by
  refine ⟨fun a fault hr => ?_, fun call edits e results fault hc => documents_concat hc,
    fun classId selector root fault left => ⟨fun values => ?_, fun value => ?_, ?_⟩⟩
  · have hp := hs.performs a
    rw [hr] at hp
    exact hp.unchanged
  · exact Edit.atomic_set h strict classId selector values root fault left
  · exact Edit.atomic_push h strict classId selector value root fault left
  · exact Edit.atomic_pull h classId selector root fault left

end Engine

theorem unchanged_estimated_task :
    ((empty .tasks false).run [.create "Estimate" [("hours", .null)] "t1",
        .create "Task" [] "t1"]).documents =
      ((empty .tasks false).run [.create "Estimate" [("hours", .null)] "t1"]).documents ∧
    ((empty .tasks false).run [.create "Estimate" [("hours", .null)] "t1",
        .editView "t1" "Task" [.set "name" .null, .set "hours" .null]]).documents =
      ((empty .tasks false).run [.create "Estimate" [("hours", .null)] "t1",
        .editView "t1" "Task" [.set "name" .null]]).documents ∧
    ∃ left, Edit.set .tasks false "Task" [] [("hours", .null)] [("name", .null)] =
        .error (.attributeNotFound "Task" "hours") left ∧ left = [("name", .null)] := by
  obtain ⟨hcall, hview, hroot⟩ := unchanged_of_error reachable_estimated_task
  obtain ⟨left, hleft⟩ : ∃ left, Edit.set .tasks false "Task" [] [("hours", .null)]
      [("name", .null)] = .error (.attributeNotFound "Task" "hours") left := ⟨_, rfl⟩
  refine ⟨hcall (.create "Task" [] "t1") _ rfl, ?_, left, hleft, ?_⟩
  · exact hview _ [.set "name" .null] (.set "hours" .null) _ _ (.editView "t1" "Task") rfl rfl
  · exact (hroot "Task" [] _ _ left).1 _ hleft

end Store

end TypedDocs
