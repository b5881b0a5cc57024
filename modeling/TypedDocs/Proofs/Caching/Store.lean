import TypedDocs.Caching.Store
import TypedDocs.Proofs.Caching.Edit
import TypedDocs.Proofs.Store.Transition

/-!
# The caches in the store

Whatever calls are made, a store that keeps attributes and compiled patterns beside it gives the
replies that it gives without them: the same results, the same stores and the same events.

    Agrees s.hierarchy (perform s a) (s.perform a)                                (agrees_perform)
    Agrees s.hierarchy (replies s actions) (s.replies actions)                    (agrees_replies)

What other stores keep meanwhile in the memo of patterns that all of them share leaves it faithful,
so that the replies are the same also then.
-/

namespace TypedDocs.Caching

variable {ρ : Type} [Pattern.Engine ρ] {s : Store}

/-! ## Calls -/

theorem agrees_newDocument (classId : String) (values : Layout) (id : String) :
    Agrees s.hierarchy (newDocument s classId values id : Caching ρ Fault _).run
      (s.newDocument classId values id) := by
  rw [newDocument, Store.newDocument]
  refine (agrees_ofExcept _).bindOk fun concrete => ?_
  have hassign : Agrees s.hierarchy
      ((assign s.hierarchy s.strict classId (Store.blankDocument s.hierarchy classId concrete id)
        values).adapt AssignmentFailure.fault : Caching ρ Fault Layout).run _ :=
    (agrees_assign _ _ _).adapt _
  cases hdoc : Assignment.assign s.hierarchy s.strict classId
      (Store.blankDocument s.hierarchy classId concrete id) values with
  | error failure =>
    rw [hdoc] at hassign
    exact hassign.refused
  | ok doc =>
    rw [hdoc] at hassign
    exact hassign.andThen ((agrees_ofExcept _).bindOk fun _ => agrees_ok _)

theorem agrees_create (classId : String) (values : Layout) (id : String) :
    Agrees s.hierarchy (create s classId values id : StateM (Caches ρ) _)
      (s.create classId values id) := by
  rw [create, Store.create]
  split
  · exact agrees_return _
  · exact (agrees_newDocument classId values id).bind (agrees_return _)

theorem agrees_find (classId : String) (query : Layout) :
    Agrees s.hierarchy (find s classId query : StateM (Caches ρ) _) (s.find classId query) := by
  rw [find, Store.find]
  cases s.hierarchy.concreteClass classId with
  | error fault => exact agrees_return _
  | ok base => exact (agrees_matching classId query (s.compared base)).bind (agrees_return _)

/-- To edit a document is to look everything up, and to make what is left of the edit. -/
theorem agrees_edit (operation : Operation) (id : String)
    {work : Document → Caching ρ Fault (Editing Unit)} {change : Document → Editing Unit}
    (hw : ∀ doc, Leaves s.hierarchy (work doc) (change doc) doc) :
    Agrees s.hierarchy (edit s operation id work) (s.edit operation id change) := by
  rw [edit]
  cases hid : s.documents.get? id with
  | none =>
    rw [Store.edit, hid]
    exact agrees_return _
  | some doc =>
    obtain ⟨left, hleft, hmade⟩ := hw doc
    have hedit : s.edit operation id change = s.edit operation id fun _ => finish left := by
      simp only [Store.edit, hid, hmade]
    rw [hedit]
    exact hleft.bind (agrees_return _)

theorem agrees_remove (id : String) (selector : Selector) :
    Agrees s.hierarchy (remove s id selector : StateM (Caches ρ) _) (s.remove id selector) := by
  rw [remove]
  split
  · exact agrees_return _
  · next hne =>
    rw [Store.remove, if_neg hne]
    exact agrees_edit .pull id fun doc => leaves_pull _ selector

theorem Agrees.mapReply {α β : Type} {h : Hierarchy} {work : StateM (Caches ρ) (Reply α)}
    {reply : Reply α} (hw : Agrees h work reply) (f : α → β) :
    Agrees h (do return (← work).map f) (reply.map f) :=
  hw.bind (agrees_return _)

theorem agrees_perform (a : Action) :
    Agrees s.hierarchy (perform s a : StateM (Caches ρ) _) (s.perform a) := by
  cases a with
  | create classId values id => exact (agrees_create classId values id).mapReply _
  | find classId query => exact (agrees_find classId query).mapReply _
  | update id selector values =>
    exact (agrees_edit .update id fun doc => leaves_set _ _ selector values).mapReply _
  | push id selector value =>
    exact (agrees_edit .push id fun doc => leaves_push _ _ selector value).mapReply _
  | remove id selector => exact (agrees_remove id selector).mapReply _
  | load docs | view id classifier | editView id classifier edits | cast id mixin edits =>
    exact agrees_return _

/-! ## Main statement -/

/-- Calls that are performed one after the other get the replies that they get without caches, and
leave the caches faithful. -/
theorem agrees_replies (s : Store) (actions : List Action) :
    Agrees s.hierarchy (replies s actions : StateM (Caches ρ) _) (s.replies actions) := by
  induction actions generalizing s with
  | nil => exact agrees_return _
  | cons a actions ih =>
    have hrest := ih (s.step a)
    rw [(Store.sameSetting_step s a).hierarchy] at hrest
    exact (agrees_perform a).bind (hrest.bind (agrees_return _))

/-- From empty caches the replies are those without caches, and what is kept after them is what
would be looked up and compiled. -/
theorem replies_eq (s : Store) (actions : List Action) :
    ∃ c : Caches ρ, (replies s actions).run .empty = (s.replies actions, c) ∧
      c.Faithful s.hierarchy := by
  obtain ⟨hreplies, hkept⟩ := agrees_replies s actions .empty (faithful_empty s.hierarchy)
  exact ⟨_, Prod.ext hreplies rfl, hkept⟩

end TypedDocs.Caching
