import TypedDocs.Store.Change
import TypedDocs.Store.Search
import TypedDocs.Value.Ordered

/-!
# Runs of the store

An action is a call of one operation with its arguments.  A run performs actions one after the
other, whatever their results; the stores that runs lead to from an empty one are *reachable*.
The values of an action are objects as they are read, with their fields in order of keys.
-/

namespace TypedDocs

/-! ## Actions -/

/-- A call of the store. -/
inductive Action where
  | load (docs : List Document)
  | create (classId : String) (values : Layout) (id : String)
  | find (classId : String) (query : Layout)
  | update (id : String) (selector : Selector) (values : Layout)
  | push (id : String) (selector : Selector) (value : Value)
  | remove (id : String) (selector : Selector)
  | view (id classifier : String)
  | editView (id classifier : String) (edits : List ViewEdit)
  | cast (id mixin : String) (edits : List ViewEdit)

/-- What a call gives when it is not refused. -/
inductive Action.Result where
  | loaded (count : Nat)
  | created (doc : Document)
  | found (docs : List Document)
  | done
  | viewed (view : View)
  | edited (results : Store.ViewResults)

/-- Every pattern of a selector is ordered. -/
def Selector.Ordered (s : Selector) : Prop := ∀ step ∈ s, ∀ p ∈ step.pattern, p.Ordered

/-- The value that is written is ordered. -/
def ViewEdit.Ordered : ViewEdit → Prop
  | .set _ value => value.Ordered
  | _ => True

/-- Every value of the call is ordered. -/
def Action.Ordered : Action → Prop
  | .load docs => ∀ doc ∈ docs, Layout.Ordered doc
  | .create _ values _ => values.Ordered
  | .find _ query => query.Ordered
  | .update _ selector values => selector.Ordered ∧ values.Ordered
  | .push _ selector value => selector.Ordered ∧ value.Ordered
  | .remove _ selector => selector.Ordered
  | .view _ _ => True
  | .editView _ _ edits => ∀ e ∈ edits, e.Ordered
  | .cast _ _ edits => ∀ e ∈ edits, e.Ordered

instance (s : Selector) : Decidable s.Ordered :=
  inferInstanceAs (Decidable (∀ step ∈ s, ∀ p ∈ step.pattern, p.Ordered))

instance : (e : ViewEdit) → Decidable e.Ordered
  | .set _ value => inferInstanceAs (Decidable value.Ordered)
  | .get _ | .remove _ => .isTrue trivial

instance : (a : Action) → Decidable a.Ordered
  | .load docs => inferInstanceAs (Decidable (∀ doc ∈ docs, Layout.Ordered doc))
  | .create _ values _ => inferInstanceAs (Decidable values.Ordered)
  | .find _ query => inferInstanceAs (Decidable query.Ordered)
  | .update _ selector values => inferInstanceAs (Decidable (selector.Ordered ∧ values.Ordered))
  | .push _ selector value => inferInstanceAs (Decidable (selector.Ordered ∧ value.Ordered))
  | .remove _ selector => inferInstanceAs (Decidable selector.Ordered)
  | .view _ _ => .isTrue trivial
  | .editView _ _ edits | .cast _ _ edits =>
    inferInstanceAs (Decidable (∀ e ∈ edits, e.Ordered))

/-! ## Runs -/

/-- The reply with another form of its result. -/
def Reply.map {α β : Type} (r : Reply α) (f : α → β) : Reply β :=
  ⟨r.result.map f, r.store, r.events⟩

namespace Store

variable {ρ : Type} [Pattern.Engine ρ]

/-- Performs a call. -/
def perform (s : Store) : Action → Reply Action.Result
  | .load docs => (s.load docs).map .loaded
  | .create classId values id => (s.create classId values id).map .created
  | .find classId query => (s.find classId query).map .found
  | .update id selector values => (s.update id selector values).map fun _ => .done
  | .push id selector value => (s.push id selector value).map fun _ => .done
  | .remove id selector => (s.remove id selector).map fun _ => .done
  | .view id classifier => (s.view id classifier).map .viewed
  | .editView id classifier edits => (s.editView id classifier edits).map .edited
  | .cast id mixin edits => (s.cast id mixin edits).map .edited

/-- The store after a call. -/
def step (s : Store) (a : Action) : Store := (s.perform a).store

/-- The store after several calls. -/
def run (s : Store) (actions : List Action) : Store := actions.foldl step s

/-- The replies to several calls. -/
def replies (s : Store) : List Action → List (Reply Action.Result)
  | [] => []
  | a :: actions => s.perform a :: (s.step a).replies actions

/-- The stores that calls of a kind lead to from an empty store. -/
inductive ReachableBy (kind : Action → Prop) (h : Hierarchy) (strict : Bool) : Store → Prop where
  | empty : ReachableBy kind h strict (Store.empty h strict)
  | step {s : Store} {a : Action} (hs : ReachableBy kind h strict s) (ha : kind a) :
    ReachableBy kind h strict (s.step a)

/-- The stores that calls lead to from an empty store. -/
abbrev Reachable : Hierarchy → Bool → Store → Prop := ReachableBy Action.Ordered

/-! ## Lemmas -/

@[simp] theorem run_nil (s : Store) : s.run [] = s := rfl

@[simp] theorem run_cons (s : Store) (a : Action) (actions : List Action) :
    s.run (a :: actions) = (s.step a).run actions := rfl

theorem ReachableBy.run {kind : Action → Prop} {h : Hierarchy} {strict : Bool} {s : Store}
    (hs : ReachableBy kind h strict s) {actions : List Action} (ha : ∀ a ∈ actions, kind a) :
    ReachableBy kind h strict (s.run actions) := by
  induction actions generalizing s with
  | nil => exact hs
  | cons a rest ih =>
    rw [List.forall_mem_cons] at ha
    exact ih (hs.step ha.1) ha.2

end Store

end TypedDocs
