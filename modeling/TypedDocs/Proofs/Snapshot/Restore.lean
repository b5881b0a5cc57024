import TypedDocs.Json.Lemmas
import TypedDocs.Pattern.Basic
import TypedDocs.Snapshot.Basic
import TypedDocs.Proofs.Classifier.Codec
import TypedDocs.Proofs.Hierarchy.Loading
import TypedDocs.Proofs.Store.Index
import TypedDocs.Proofs.Store.Order

/-!
# Snapshots of reachable stores

Nothing that calls make of a store is lost in its snapshot: the written snapshot is read back as
it is, the classifiers make the hierarchy again, and the documents, being identified under
different ids, pass every check of a load.

    s.documents all ordered → ofJson? s.toJson = some s                      (ofJson?_toJson)
    Reachable h strict s →
      (s.snapshot.restore strict').1 = .ok (s.restored strict')              (restore_eq)
-/

namespace TypedDocs

/-! ## Writing and reading -/

theorem Snapshot.ofJson?_toJson {s : Snapshot}
    (hd : ∀ doc ∈ s.documents, Layout.Ordered doc) : ofJson? s.toJson = some s := by
  have hfields : Json.record? ["classifiers", "documents"] s.toJson =
      some [some (.array (s.classifiers.map Classifier.toJson)),
        some (.array (s.documents.map Layout.toJson))] := rfl
  have hclassifiers : (s.classifiers.map Classifier.toJson).mapM Classifier.ofJson? =
      some s.classifiers :=
    mapM_map_eq_some fun c _ => Classifier.ofJson?_toJson c
  have hdocuments : (s.documents.map Layout.toJson).mapM Layout.ofJson? = some s.documents :=
    mapM_map_eq_some fun doc hm => Layout.ofJson?_toJson (hd doc hm)
  rw [ofJson?, hfields]
  show (do
    let classifiers ← (s.classifiers.map Classifier.toJson).mapM Classifier.ofJson?
    let documents ← (s.documents.map Layout.toJson).mapM Layout.ofJson?
    return (⟨classifiers, documents⟩ : Snapshot)) = some s
  rw [hclassifiers, hdocuments]
  rfl

/-! ## Loading what is stored -/

namespace Store

section Engine

variable {ρ : Type} [Pattern.Engine ρ]
variable {h : Hierarchy} {strict : Bool} {s : Store} {id : String} {doc : Document}

/-- The documents of a store, loaded into an empty one, give the same documents. -/
theorem Identified.stage_toList (hs : s.Identified) :
    stage s.hierarchy .empty s.toList = .ok s.documents := by
  refine stage_eq_ok_iff.2 ⟨fun doc hm => ⟨?_, rfl⟩, ?_, ?_⟩
  · obtain ⟨id, hid⟩ := Documents.mem_toList_iff.1 hm
    have hd := hs id doc hid
    rw [hd.id_eq]
    exact hd
  · rw [List.nodup_iff_pairwise_ne]
    refine hs.ascending.imp fun hlt he => ?_
    rw [he] at hlt
    exact String.lt_irrefl _ hlt
  · rw [← hs.entries_eq]
    exact (Keyed.ofEntries_of_sorted s.documents.sorted).symm

/-- The store with the hierarchy and the documents of another one, and nothing kept besides. -/
def restored (s : Store) (strict : Bool) : Store :=
  { empty s.hierarchy strict with documents := s.documents }

theorem restore_eq (hs : Reachable h strict s) (strict' : Bool) :
    (s.snapshot.restore strict').1 = .ok (s.restored strict') := by
  have hlist : Hierarchy.ofList s.snapshot.classifiers = .ok s.hierarchy :=
    Hierarchy.ofList_toList s.hierarchy
  have hstage : stage s.hierarchy .empty s.snapshot.documents = .ok s.documents :=
    (ReachableBy.identified hs).stage_toList
  simp only [Snapshot.restore, hlist, load, empty, hstage, restored]

/-- A restored store is one that a load leads to. -/
theorem reachable_restored (hs : Reachable h strict s) (strict' : Bool) :
    Reachable h strict' (s.restored strict') := by
  have hload : (empty h strict').step (.load s.toList) = s.restored strict' := by
    have hstage := (ReachableBy.identified hs).stage_toList
    rw [hs.hierarchy_eq] at hstage
    simp only [step, perform, Reply.map, load, empty, hstage, restored, hs.hierarchy_eq]
  rw [← hload]
  refine ReachableBy.empty.step fun doc hm => ?_
  obtain ⟨id, hid⟩ := Documents.mem_toList_iff.1 hm
  exact ReachableBy.ordered hs hid

/-! ## Main statement -/

/-- The snapshot of a reachable store is read back from what is written for it and is restored,
strictly or not, to a store with the same snapshot, in which every search gives the same. -/
theorem restore_snapshot (hs : Reachable h strict s) (strict' : Bool) :
    Snapshot.ofJson? s.snapshot.toJson = some s.snapshot ∧
      ∃ s', (s.snapshot.restore strict').1 = .ok s' ∧ s'.strict = strict' ∧
        s'.snapshot = s.snapshot ∧
        ∀ classId query, (s'.find classId query).result = (s.find classId query).result := by
  refine ⟨?written, s.restored strict', restore_eq hs strict', rfl, rfl, ?searched⟩
  case written =>
    refine Snapshot.ofJson?_toJson fun doc hm => ?_
    obtain ⟨id, hid⟩ := Documents.mem_toList_iff.1 hm
    exact ReachableBy.ordered hs hid
  case searched =>
    intro classId query
    have hscan : (s.restored strict').scan classId query = s.scan classId query := rfl
    rw [result_find (reachable_restored hs strict'), hscan, result_find hs]

end Engine

theorem restore_snapshot_estimated_task :
    ∃ s s', s = (empty .tasks false).run [.create "Estimate" [("hours", .null)] "t1"] ∧
      s.toList.map Document.id = ["t1"] ∧
      Snapshot.ofJson? s.snapshot.toJson = some s.snapshot ∧
      (s.snapshot.restore true).1 = .ok s' ∧ s'.snapshot = s.snapshot ∧
      (s'.find "Estimate" [("hours", .null)]).result =
        (s.find "Estimate" [("hours", .null)]).result := by
  obtain ⟨hread, s', hrestore, -, hsame, hfind⟩ := restore_snapshot reachable_estimated_task true
  exact ⟨_, s', rfl, rfl, hread, hrestore, hsame, hfind "Estimate" [("hours", .null)]⟩

end Store

end TypedDocs
