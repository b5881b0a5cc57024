import TypedDocs.Caching.Edit
import TypedDocs.Proofs.Caching.Assignment
import TypedDocs.Proofs.Caching.Query

/-!
# The caches in edits

With faithful caches a selector leads where it leads without them, and an edit looks up what it
looks up without them: to make what is left is to make the edit.

    Agrees h (locate h rootClass root s).run (s.locate h rootClass root)           (agrees_locate)
    Leaves h (leftOfSet h strict rootClass s values root)
      (Edit.set h strict rootClass s values) root                                      (leaves_set)
-/

namespace TypedDocs.Caching

open Selector (Position)

variable {ρ : Type} [Pattern.Engine ρ] {h : Hierarchy}

/-! ## Selectors -/

theorem agrees_pick (p : Position) (attr : ResolvedAttribute) (key : String) (pattern : Value) :
    Agrees h (pick h p attr key pattern : Caching ρ Fault (Value × Path × Slot)).run
      (Selector.pick h p attr key pattern) := by
  rw [pick, Selector.pick]
  cases p.layout.get? attr.wire with
  | none => exact agrees_error _
  | some value =>
    refine (agrees_matchValue value pattern).bindOk fun verdict => ?_
    cases verdict with
    | miss => exact agrees_error _
    | hit => exact agrees_ok _
    | hitAt i =>
      cases value with
      | array items =>
        cases hitem : items[i]? with
        | none =>
          simp only [hitem]
          exact agrees_error _
        | some item =>
          simp only [hitem]
          exact agrees_ok _
      | _ => exact agrees_error _

theorem agrees_locateFrom (s : Selector) (before here : Position) :
    Agrees h (locateFrom h before here s : Caching ρ Fault Location).run
      (Selector.locateFrom h before here s) := by
  induction s generalizing before here with
  | nil => exact agrees_ok _
  | cons step rest ih =>
    rw [locateFrom, Selector.locateFrom]
    refine (agrees_resolveKey h here.classId step.key).bindOk fun attr => ?_
    cases step.pattern with
    | none =>
      simp only
      split
      · exact agrees_ok _
      · exact agrees_error _
    | some pattern =>
      cases attr.type with
      | bagOf element =>
        exact agrees_error _
      | _ =>
        simp only [Bool.false_eq_true, if_false]
        refine (agrees_pick here attr step.key pattern).bindOk fun picked => ?_
        obtain ⟨value, path, slot⟩ := picked
        simp only
        split
        · exact agrees_ok _
        · cases value with
          | object fields =>
            cases Selector.classOfValue h attr (.object fields) with
            | none => exact agrees_error _
            | some c => exact ih here ⟨path, c, fields⟩
          | _ => exact agrees_error _

theorem agrees_locate (rootClass : String) (root : Layout) (s : Selector) :
    Agrees h (locate h rootClass root s : Caching ρ Fault Location).run
      (s.locate h rootClass root) :=
  agrees_locateFrom s _ _

theorem agrees_locateObject (rootClass : String) (root : Layout) (s : Selector) :
    Agrees h (locateObject h rootClass root s : Caching ρ Fault Location).run
      (Edit.locateObject h rootClass root s) := by
  have hlocate := agrees_locate (h := h) (ρ := ρ) rootClass root s
  rw [locateObject, Edit.locateObject]
  cases hl : s.locate h rootClass root with
  | ok l =>
    rw [hl] at hlocate
    exact hlocate.uncaught
  | error fault =>
    rw [hl] at hlocate
    cases fault with
    | selectorMismatch key => exact hlocate.caught (agrees_error _)
    | _ => exact hlocate.caught (agrees_error _)

/-! ## What is left of an edit -/

/-- The edit of the root is what is left of the work when everything is looked up. -/
def Leaves (h : Hierarchy) (work : Caching ρ Fault (Editing Unit)) (edit : Editing Unit)
    (root : Layout) : Prop :=
  ∃ left, Agrees h work.run left ∧ edit root = finish left root

variable {root : Layout}

theorem leaves_return (edit : Editing Unit) : Leaves h (pure edit : Caching ρ Fault _) edit root :=
  ⟨.ok edit, agrees_ok edit, rfl⟩

theorem leaves_throw (fault : Fault) :
    Leaves h (throw fault : Caching ρ Fault _) (throw fault) root :=
  ⟨.error fault, agrees_error fault, rfl⟩

/-- A step of an edit that only reads the root is made beforehand. -/
theorem Leaves.bindOk {α : Type} {work : Caching ρ Fault α} {result : Except Fault α}
    {next : α → Caching ρ Fault (Editing Unit)} {step : Editing α} {edit : α → Editing Unit}
    (hw : Agrees h work.run result) (hs : step root = (ofExcept result : Editing α) root)
    (hn : ∀ a, Leaves h (next a) (edit a) root) :
    Leaves h (work >>= next) (step >>= edit) root := by
  have hbind : (step >>= edit) root = ((ofExcept result : Editing α) >>= edit) root := by
    show EStateM.bind step edit root = EStateM.bind (ofExcept result) edit root
    rw [EStateM.bind, EStateM.bind, hs]
  cases result with
  | error fault => exact ⟨.error fault, hw.refused, hbind⟩
  | ok a =>
    obtain ⟨left, hleft, hfinish⟩ := hn a
    exact ⟨left, hw.andThen hleft, hbind.trans hfinish⟩

/-! ## Edits -/

theorem agrees_layoutAt (path : Path) :
    Agrees h (layoutAt root path : Caching ρ Fault Layout).run
      (match root.at? path with
        | some layout => .ok layout
        | none => .error .objectNotFound) := by
  rw [layoutAt]
  cases root.at? path with
  | some layout => exact agrees_ok _
  | none => exact agrees_error _

theorem leaves_set (strict : Bool) (rootClass : String) (s : Selector) (values : Layout) :
    Leaves h (leftOfSet h strict rootClass s values root : Caching ρ Fault _)
      (Edit.set h strict rootClass s values) root := by
  rw [leftOfSet, Edit.set]
  refine Leaves.bindOk (agrees_locateObject rootClass root s) rfl fun l => ?_
  cases l.targetClass with
  | none => exact leaves_throw _
  | some classId =>
    refine Leaves.bindOk (agrees_ofExcept _) rfl fun _ => ?_
    refine Leaves.bindOk (agrees_layoutAt l.target) rfl fun scratch => ?_
    have hwrites : Leaves h
        (do
          let new ← (assign h strict classId scratch values).adapt AssignmentFailure.fault
          return Edit.writeAt l.target new : Caching ρ Fault (Editing Unit))
        (ofExcept ((Assignment.assign h strict classId scratch values).mapError
          AssignmentFailure.fault) >>= Edit.writeAt l.target) root :=
      Leaves.bindOk ((agrees_assign classId scratch values).adapt _) rfl fun _ =>
        leaves_return _
    cases hnew : Assignment.assign h strict classId scratch values with
    | error failure =>
      rw [hnew] at hwrites
      exact hwrites
    | ok new =>
      rw [hnew] at hwrites
      exact hwrites

theorem leaves_push (strict : Bool) (rootClass : String) (s : Selector) (value : Value) :
    Leaves h (leftOfPush h strict rootClass s value root : Caching ρ Fault _)
      (Edit.push h strict rootClass s value) root := by
  rw [leftOfPush, Edit.push]
  refine Leaves.bindOk (agrees_locate rootClass root s) rfl fun l => ?_
  cases l.attribute? with
  | none => exact leaves_throw _
  | some attr =>
    simp only
    cases attr.type with
    | arrayOf element =>
      exact Leaves.bindOk (agrees_typedValue value) rfl fun item => leaves_return _
    | _ => exact leaves_throw _

theorem leaves_pull (rootClass : String) (s : Selector) :
    Leaves h (leftOfPull h rootClass s root : Caching ρ Fault _) (Edit.pull h rootClass s) root :=
  Leaves.bindOk (agrees_locateObject rootClass root s) rfl fun _ => leaves_return _

end TypedDocs.Caching
