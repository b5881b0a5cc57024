import Mathlib.Data.List.Nodup
import TypedDocs.Pattern.Basic
import TypedDocs.Proofs.Store.Creation
import TypedDocs.Proofs.Store.Identity
import TypedDocs.Proofs.Store.Origin

/-!
# The mixins of stored documents

The mixins applied to a document stand under a key of their own.  A mixin that is cast comes last,
and only if it is not there yet.  What is loaded, created or updated with such a list has it as it
is given, so a mixin stands in it once unless a call has listed it twice (`Repeats`).

    mixins (doc.addMixin m) = if doc.hasMixin m then mixins doc else mixins doc ++ [m]
                                                                              (mixins_addMixin)
    … → s.documents.get? id = some doc → (mixins doc).Nodup          (nodup_mixins_of_reachable)
-/

namespace TypedDocs

/-! ## Lists of mixins -/

namespace Document

variable {doc doc' : Document}

theorem mixins_congr (he : doc'.get? mixinsKey = doc.get? mixinsKey) :
    mixins doc' = mixins doc := by
  rw [mixins, mixins, he]

theorem mixins_insert_array (doc : Document) (items : List Value) :
    mixins (doc.insert mixinsKey (.array items)) = items.filterMap Value.string? := by
  rw [mixins, Keyed.get?_insert_self]

/-- A mixin that is added comes last, unless it is there. -/
theorem mixins_addMixin (doc : Document) (mixin : String) :
    mixins (doc.addMixin mixin) =
      if doc.hasMixin mixin then mixins doc else mixins doc ++ [mixin] := by
  rw [addMixin]
  split
  · rfl
  · conv => rhs; rw [mixins]
    split
    · rw [mixins_insert_array, List.filterMap_append]
      rfl
    · rw [mixins_insert_array]
      rfl

theorem nodup_mixins_addMixin (hn : (mixins doc).Nodup) (mixin : String) :
    (mixins (doc.addMixin mixin)).Nodup := by
  rw [mixins_addMixin]
  split
  · exact hn
  · next hnot =>
    rw [hasMixin, List.contains_iff_mem] at hnot
    rw [List.nodup_append]
    refine ⟨hn, List.nodup_singleton mixin, ?_⟩
    intro given hgiven added hadded
    rw [List.mem_singleton] at hadded
    subst hadded
    rintro rfl
    exact hnot hgiven

end Document

/-! ## Calls that list mixins -/

/-- The call lists a mixin twice for the document with an id. -/
inductive Action.Repeats : Action → String → Prop where
  | load {docs : List Document} {doc : Document} (hm : doc ∈ docs)
    (hr : ¬ (Document.mixins doc).Nodup) : Repeats (.load docs) (Document.id doc)
  | create {classId id : String} {values : Layout} (hr : ¬ (Document.mixins values).Nodup) :
    Repeats (.create classId values id) id
  | update {id : String} {selector : Selector} {values : Layout}
    (hr : ¬ (Document.mixins values).Nodup) : Repeats (.update id selector values) id

namespace Store

section Engine

variable {ρ : Type} [Pattern.Engine ρ]
variable {h : Hierarchy} {strict : Bool} {s : Store} {a : Action} {id classId concrete : String}
  {values : Layout} {doc : Document}

/-- A new document has the mixins that its values list; if they list none, the one it is created
for, if that is a mixin. -/
theorem mixins_newDocument (hv : values.Ordered)
    (hn : s.newDocument classId values id = .ok (doc, concrete)) :
    Document.mixins doc =
      if values.contains Document.mixinsKey then Document.mixins values
      else if s.hierarchy.isMixin classId then [classId] else [] := by
  obtain ⟨-, ha, -⟩ := newDocument_eq_ok hn
  have htag : Document.tag? (blankDocument s.hierarchy classId concrete id) = some concrete :=
    Document.tag?_eq_some_iff.2 get?_blankDocument_classKey
  rw [Assignment.assign, Assignment.withTag_of_tag? htag] at ha
  have hget := Assignment.get?_assignEntries_of_ne_classKey (Layout.ordered_iff.1 hv).1.nodup ha
    Document.isInternal_mixinsKey (by decide)
  rw [Keyed.contains]
  cases hgiven : values.get? Document.mixinsKey with
  | some value =>
    rw [hgiven, Option.some_or, ← hgiven] at hget
    rw [Document.mixins_congr hget]
    rfl
  | none =>
    rw [hgiven, Option.none_or] at hget
    rw [Document.mixins_congr hget, mixins_blankDocument]
    rfl

theorem nodup_mixins_newDocument (hv : values.Ordered) (hnodup : (Document.mixins values).Nodup)
    (hn : s.newDocument classId values id = .ok (doc, concrete)) :
    (Document.mixins doc).Nodup := by
  rw [mixins_newDocument hv hn]
  split
  · exact hnodup
  · split
    · exact List.nodup_singleton classId
    · exact List.nodup_nil

/-- A call that lists no mixin twice for a document leaves it with none twice. -/
theorem Derives.nodup_mixins (hs : s.Identified) (ha : a.Ordered) (hr : ¬ a.Repeats id)
    (hold : ∀ doc, s.documents.get? id = some doc → (Document.mixins doc).Nodup)
    (hd : s.Derives a id doc) : (Document.mixins doc).Nodup := by
  cases hd with
  | kept hid => exact hold doc hid
  | loaded hm _ => exact Classical.byContradiction fun hnot => hr (.load hm hnot)
  | created hdoc =>
    exact nodup_mixins_newDocument ha (Classical.byContradiction fun hnot => hr (.create hnot)) hdoc
  | @updated id selector values doc _ hid he =>
    have hv := (Layout.ordered_iff.1 ha.2).1.nodup
    rcases Edit.get?_set (hs id doc hid).tag?_eq hv he Document.isInternal_mixinsKey with
      hkept | ⟨value, hgiven, hset⟩
    · rw [Document.mixins_congr hkept]
      exact hold doc hid
    · rw [← hgiven] at hset
      rw [Document.mixins_congr hset]
      exact Classical.byContradiction fun hnot => hr (.update hnot)
  | @pushed id selector value doc _ hid he =>
    rw [Document.mixins_congr (Edit.get?_push he Document.isInternal_mixinsKey)]
    exact hold doc hid
  | @pulled id selector doc _ hid he =>
    rw [Document.mixins_congr (Edit.get?_pull he Document.isInternal_mixinsKey)]
    exact hold doc hid
  | @edited id classifier edits doc c hid hc hgrant =>
    rw [Document.mixins_congr (Document.get?_edited hc doc edits Document.isInternal_mixinsKey)]
    exact hold doc hid
  | @cast id mixin edits doc c hid hm hc =>
    rw [Document.mixins_congr
      (Document.get?_edited hc (doc.addMixin mixin) edits Document.isInternal_mixinsKey)]
    exact Document.nodup_mixins_addMixin (hold doc hid) mixin

/-! ## Main statement -/

/-- No mixin is applied twice to a document that has been spared the calls that list one twice for
it. -/
theorem nodup_mixins_of_reachable
    (hs : ReachableSparing Action.Ordered (fun a => a.Repeats id) h strict id s)
    (hid : s.documents.get? id = some doc) : (Document.mixins doc).Nodup := by
  refine hs.forall_document (P := fun doc => (Document.mixins doc).Nodup) ?_ doc hid
  intro s a doc hs ha hrep hold hd
  exact hd.nodup_mixins hs.identified ha hrep hold

end Engine

theorem nodup_mixins_of_estimated_task :
    ∃ doc, ((empty .tasks false).run
        [.create "Estimate" [] "t1", .cast "t1" "Estimate" []]).documents.get? "t1" = some doc ∧
      doc.hasMixin "Estimate" = true ∧ (Document.mixins doc).Nodup := by
  have hcreate : Action.Ordered (.create "Estimate" [] "t1") := by decide
  have hcast : Action.Ordered (.cast "t1" "Estimate" []) := by decide
  have honce : ¬ Action.Repeats (.create "Estimate" [] "t1") "t1" := by
    intro hrep
    cases hrep with
    | create hr => exact hr List.nodup_nil
  have hs : ReachableSparing Action.Ordered (fun a => a.Repeats "t1") .tasks false "t1"
      ((empty .tasks false).run [.create "Estimate" [] "t1", .cast "t1" "Estimate" []]) :=
    ((ReachableSparing.absent .empty rfl).step hcreate fun hrep => absurd hrep honce).step
      hcast fun hrep => by cases hrep
  obtain ⟨doc, hid, hm⟩ : ∃ doc, ((empty .tasks false).run
      [.create "Estimate" [] "t1", .cast "t1" "Estimate" []]).documents.get? "t1" = some doc ∧
      doc.hasMixin "Estimate" = true := ⟨_, rfl, by decide⟩
  exact ⟨doc, hid, hm, nodup_mixins_of_reachable hs hid⟩

/-- A document has a mixin twice that is loaded, created or updated so. -/
theorem exists_repeated_mixin :
    (∃ doc, ((empty .tasks false).run
        [.load [[("_class", .string "Task"), ("_id", .string "t1"),
          ("_mixins", .array [.string "Estimate", .string "Estimate"])]]]).documents.get? "t1" =
          some doc ∧ Document.mixins doc = ["Estimate", "Estimate"]) ∧
    (∃ doc, ((empty .tasks false).run
        [.create "Task" [("_mixins", .array [.string "Estimate", .string "Estimate"])]
          "t1"]).documents.get? "t1" = some doc ∧
        Document.mixins doc = ["Estimate", "Estimate"]) ∧
    ∃ doc, ((empty .tasks false).run
        [.create "Task" [] "t1", .update "t1" []
          [("_mixins", .array [.string "Estimate", .string "Estimate"])]]).documents.get? "t1" =
          some doc ∧ Document.mixins doc = ["Estimate", "Estimate"] :=
  ⟨⟨_, rfl, rfl⟩, ⟨_, rfl, rfl⟩, _, rfl, rfl⟩

end Store

end TypedDocs
