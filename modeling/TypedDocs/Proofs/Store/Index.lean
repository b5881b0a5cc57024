import TypedDocs.Pattern.Basic
import TypedDocs.Proofs.Store.Identity

/-!
# The class index

The index of a store, where there is one, is the index of its documents: no call changes the class
of a document and leaves the index.  The ids that it has for the classes that extend one are those
of the documents of these classes, so a search through the index finds what a walk through all
documents finds.

    s.index = some index → index = indexOf s.documents                    (index_eq)
    candidates h (indexOf d) base = the ids of the entries whose class extends `base`
                                                                          (candidates_indexOf)
-/

namespace TypedDocs.Store

section Engine

variable {ρ : Type} [Pattern.Engine ρ]
variable {h : Hierarchy} {strict : Bool} {s s' : Store} {d : Documents}

/-! ## Definitions -/

/-- The index, if it is there, is that of the documents. -/
def Indexed (s : Store) : Prop := ∀ index, s.index = some index → index = indexOf s.documents

/-- The ids that an index has for the classes of a kind. -/
def listed (p : String → Bool) (index : ClassIndex) : List String :=
  (index.filter fun e => p e.1).flatMap Prod.snd

/-- Whether a document is compared without a fault and matches. -/
def isMatch (h : Hierarchy) (classId : String) (query : Layout) (doc : Document) : Bool :=
  (Query.matchDocument h classId doc query).toOption == some true

/-! ## The index of the documents -/

/-- A document that keeps its class keeps its place in the index. -/
theorem indexOf_insert {id : String} {doc doc' : Document} (hid : d.get? id = some doc)
    (hc : Document.className doc' = Document.className doc) :
    indexOf (d.insert id doc') = indexOf d := by
  have hfold (entries : Keyed Document) (index : ClassIndex) :
      entries.foldl (fun index e => indexOne index (Document.className e.2) e.1) index =
        (entries.map fun e => (e.1, Document.className e.2)).foldl
          (fun index e => indexOne index e.2 e.1) index := by
    rw [List.foldl_map]
  rw [indexOf, indexOf, hfold, hfold, Documents.insert, d.sorted.map_insert hid _ hc]

theorem Evolves.indexed {a : Action} (he : s.Evolves a s') (hs : s.Indexed) : s'.Indexed := by
  intro index hindex
  cases he with
  | kept hd hi =>
    rw [hd]
    rcases hi with hi | hi
    · exact hs index (hi ▸ hindex)
    · rw [hi] at hindex
      cases hindex
      rfl
  | grown hold hnew hi =>
    rw [hi] at hindex
    cases hindex
  | revised hid hsame hd hi =>
    rw [hd, indexOf_insert hid hsame.className_eq]
    exact hs index (hi ▸ hindex)
  | removed ha hd hi =>
    rw [hi] at hindex
    cases hindex

theorem ReachableBy.indexed (hs : Reachable h strict s) : s.Indexed := by
  induction hs with
  | empty =>
    intro index hindex
    cases hindex
  | step hs ha ih => exact (hs.evolves (ReachableBy.identified hs) ha).indexed ih

theorem index_eq {index : ClassIndex} (hs : Reachable h strict s) (hi : s.index = some index) :
    index = indexOf s.documents :=
  ReachableBy.indexed hs index hi

/-! ## The ids of the index -/

theorem sorted_indexOne {index : ClassIndex} (hs : index.Sorted) (classId id : String) :
    (indexOne index classId id).Sorted :=
  hs.insert classId _

/-- An id that is added under a class is listed once more, where the class is. -/
theorem listed_indexOne {p : String → Bool} {index : ClassIndex} (hs : index.Sorted)
    (classId id : String) :
    (listed p (indexOne index classId id)).Perm
      (listed p index ++ if p classId then [id] else []) := by
  rw [indexOne]
  induction index with
  | nil => cases hp : p classId <;> simp [Keyed.insert, listed, hp]
  | cons e rest ih =>
    obtain ⟨k, ids⟩ := e
    have hrest := ih (List.Pairwise.of_cons hs)
    by_cases hk : classId = k
    · subst hk
      cases hp : p classId
      · simp [Keyed.insert, Keyed.get?, listed, hp]
      · simp only [Keyed.insert, Keyed.get?, listed, if_true, List.filter_cons, hp,
          List.flatMap_cons, Option.getD_some, List.append_assoc]
        exact List.perm_append_comm.append_left ids
    · by_cases hlt : classId < k
      · -- No class of the rest is `classId`, as all of them come after `k`.
        have hnone : Keyed.get? rest classId = none := by
          refine Keyed.get?_eq_none_of_not_mem fun hm => ?_
          obtain ⟨e, he, rfl⟩ := List.mem_map.1 hm
          exact String.lt_asymm hlt (List.rel_of_pairwise_cons hs he)
        rw [Keyed.get?, if_neg (Ne.symm hk), hnone, Keyed.insert, if_neg hk, if_pos hlt]
        cases hp : p classId
        · simp [listed, hp]
        · simp only [listed, List.filter_cons, hp, if_true, List.flatMap_cons, Option.getD_none,
            List.nil_append]
          exact List.perm_append_comm
      · rw [Keyed.get?, if_neg (Ne.symm hk), Keyed.insert, if_neg hk, if_neg hlt]
        cases hp : p k
        · simpa [listed, hp] using hrest
        · simp only [listed, List.filter_cons, hp, if_true, List.flatMap_cons, List.append_assoc]
          exact hrest.append_left ids

/-- The ids listed for the classes of a kind are those of the documents of these classes. -/
theorem listed_foldl (p : String → Bool) (entries : Keyed Document) {index : ClassIndex}
    (hs : index.Sorted) :
    (listed p (entries.foldl (fun index e => indexOne index (Document.className e.2) e.1)
        index)).Perm
      (listed p index ++ (entries.filter fun e => p (Document.className e.2)).map Prod.fst) := by
  induction entries generalizing index with
  | nil => simp
  | cons e rest ih =>
    have hone := listed_indexOne (p := p) hs (Document.className e.2) e.1
    rw [List.foldl_cons]
    refine (ih (sorted_indexOne hs _ _)).trans ((hone.append_right _).trans ?_)
    rw [List.append_assoc, List.filter_cons]
    cases hp : p (Document.className e.2) <;> simp

/-- The candidates are the ids of the documents whose class extends `base`, in order. -/
theorem candidates_indexOf (h : Hierarchy) (d : Documents) (base : String) :
    candidates h (indexOf d) base =
      (d.entries.filter fun e => h.isSubtype (Document.className e.2) base).map Prod.fst := by
  have hperm := listed_foldl (fun c => h.isSubtype c base) d.entries
    (List.Pairwise.nil : Keyed.Sorted [])
  have hsorted : ((d.entries.filter fun e => h.isSubtype (Document.className e.2) base).map
      Prod.fst).Pairwise (· < ·) := by
    rw [List.pairwise_map]
    exact List.Pairwise.filter _ d.sorted
  refine List.Perm.eq_of_pairwise ?antisymm (List.pairwise_mergeSort ?trans ?total _)
    (hsorted.imp ?le) ((List.mergeSort_perm _ _).trans hperm)
  case antisymm =>
    intro a b _ _ hab hba
    simp only [Bool.not_eq_true', decide_eq_false_iff_not, String.not_lt] at hab hba
    exact String.le_antisymm hab hba
  case trans =>
    intro a b c hab hbc
    simp only [Bool.not_eq_true', decide_eq_false_iff_not, String.not_lt] at hab hbc ⊢
    exact String.le_trans hab hbc
  case total =>
    intro a b
    simp only [Bool.or_eq_true, Bool.not_eq_true', decide_eq_false_iff_not, String.not_lt]
    exact String.le_total a b
  case le =>
    intro a b hab
    simp only [Bool.not_eq_true', decide_eq_false_iff_not]
    exact String.lt_asymm hab

/-- The documents of the candidates are those whose class extends `base`. -/
theorem filterMap_candidates (h : Hierarchy) (d : Documents) (base : String) :
    (candidates h (indexOf d) base).filterMap d.get? =
      d.toList.filter fun doc => h.isSubtype (Document.className doc) base := by
  rw [candidates_indexOf, List.filterMap_map, Documents.toList, List.filter_map,
    ← List.filterMap_eq_map]
  refine List.filterMap_congr fun e he => ?_
  exact Documents.get?_eq_some_iff.2 (List.mem_of_mem_filter he)

/-! ## Searches -/

section Matching

variable {classId : String} {query : Layout} {docs : List Document}

/-- A document whose class does not extend the concrete class of the scope is no match. -/
theorem matchDocument_of_not_isSubtype {base : String} (hb : h.concreteClass classId = .ok base)
    {doc : Document} (hc : h.isSubtype (Document.className doc) base = false) :
    Query.matchDocument h classId doc query = .ok false := by
  have hscope : Query.inScope h classId doc = false := by
    rw [Query.inScope]
    cases hm : h.isMixin classId with
    | true => simp [hb, hc]
    | false =>
      obtain ⟨⟨c, hfind⟩, -⟩ := Hierarchy.find?_of_isSubtype (Hierarchy.isSubtype_concreteClass hb)
      have hself := Hierarchy.concreteClass_self hfind (Hierarchy.kind_of_isMixin_eq_false hm hfind)
      rw [hb] at hself
      cases hself
      simpa using hc
  rw [Query.matchDocument, hscope]
  rfl

/-- Leaving out documents that are no match makes no difference. -/
theorem matching_filter (p : Document → Bool)
    (hp : ∀ doc ∈ docs, p doc = false → Query.matchDocument h classId doc query = .ok false) :
    matching h classId query (docs.filter p) = matching h classId query docs := by
  induction docs with
  | nil => rfl
  | cons doc rest ih =>
    rw [List.forall_mem_cons] at hp
    rw [List.filter_cons, matching]
    cases hd : p doc with
    | true => rw [if_pos rfl, matching, ih hp.2]
    | false =>
      rw [if_neg Bool.false_ne_true, ih hp.2, hp.1 hd, ok_bind]
      cases matching h classId query rest <;> rfl

/-- A walk that succeeds has met no fault, and gives the matches. -/
theorem matching_eq_ok_iff {found : List Document} :
    matching h classId query docs = .ok found ↔
      (∀ doc ∈ docs, ∃ hit, Query.matchDocument h classId doc query = .ok hit) ∧
        found = docs.filter (isMatch h classId query) := by
  induction docs generalizing found with
  | nil => simp [matching, eq_comm]
  | cons doc rest ih =>
    rw [matching, List.forall_mem_cons, List.filter_cons, isMatch]
    cases hd : Query.matchDocument h classId doc query with
    | error fault => simp
    | ok hit =>
      simp only [ok_bind, bind_eq_ok_iff, pure_eq_ok, ih]
      constructor
      · rintro ⟨found', ⟨hall, rfl⟩, hf⟩
        cases hf
        exact ⟨⟨⟨hit, rfl⟩, hall⟩, by cases hit <;> rfl⟩
      · rintro ⟨⟨-, hall⟩, rfl⟩
        exact ⟨_, ⟨hall, rfl⟩, by cases hit <;> rfl⟩

/-- A walk that fails has the fault of the first document that has one. -/
theorem matching_eq_error_iff {fault : Fault} :
    matching h classId query docs = .error fault ↔
      ∃ before doc after, docs = before ++ doc :: after ∧
        (∀ d ∈ before, ∃ hit, Query.matchDocument h classId d query = .ok hit) ∧
        Query.matchDocument h classId doc query = .error fault := by
  induction docs with
  | nil => simp [matching]
  | cons first rest ih =>
    rw [matching]
    cases hd : Query.matchDocument h classId first query with
    | error reason =>
      rw [error_bind]
      constructor
      · intro he
        cases he
        exact ⟨[], first, rest, rfl, by simp, hd⟩
      · rintro ⟨before, doc, after, hl, hbefore, hdoc⟩
        cases before with
        | nil =>
          cases hl
          rw [hd] at hdoc
          cases hdoc
          rfl
        | cons b bs =>
          cases hl
          obtain ⟨hit, hhit⟩ := hbefore first List.mem_cons_self
          rw [hd] at hhit
          cases hhit
    | ok hit =>
      have hrest : (do
          let rest ← matching h classId query rest
          return if hit = true then first :: rest else rest) = .error fault ↔
          matching h classId query rest = .error fault := by
        cases matching h classId query rest <;> simp
      rw [ok_bind, hrest, ih]
      constructor
      · rintro ⟨before, doc, after, rfl, hbefore, hdoc⟩
        exact ⟨first :: before, doc, after, rfl,
          List.forall_mem_cons.2 ⟨⟨hit, hd⟩, hbefore⟩, hdoc⟩
      · rintro ⟨before, doc, after, hl, hbefore, hdoc⟩
        cases before with
        | nil =>
          cases hl
          rw [hd] at hdoc
          cases hdoc
        | cons b bs =>
          cases hl
          exact ⟨bs, doc, after, rfl, (List.forall_mem_cons.1 hbefore).2, hdoc⟩

end Matching

theorem Performs.documents_find {classId : String} {query : Layout}
    {result : Except Fault Action.Result} (hp : s.Performs (.find classId query) s' result) :
    s'.documents = s.documents := by
  cases hp with
  | refused hd hi => exact hd
  | searched hd hi => exact hd

theorem withIndex_eq (hs : Reachable h strict s) : s.withIndex.1 = indexOf s.documents := by
  rw [withIndex]
  cases hi : s.index with
  | some index => exact index_eq hs hi
  | none => rfl

/-- A search through the index gives what a walk through all documents gives. -/
theorem result_find (hs : Reachable h strict s) (classId : String) (query : Layout) :
    (s.find classId query).result = s.scan classId query := by
  rw [scan, find]
  cases hb : s.hierarchy.concreteClass classId with
  | error fault => rfl
  | ok base =>
    have hfilter : matching s.hierarchy classId query (s.toList.filter fun doc =>
        s.hierarchy.isSubtype (Document.className doc) base) =
        matching s.hierarchy classId query s.toList :=
      matching_filter _ fun doc _ hc => matchDocument_of_not_isSubtype hb hc
    rw [ok_bind, ← hfilter, toList, ← filterMap_candidates]
    simp only [result_answer]
    rw [compared, withIndex_eq hs]

/-- The entries of a store are its documents under the ids that they have. -/
theorem Identified.entries_eq (hs : s.Identified) :
    s.documents.entries = s.toList.map fun doc => (Document.id doc, doc) := by
  rw [toList, Documents.toList, List.map_map]
  refine (List.map_id _).symm.trans (List.map_congr_left fun e he => ?_)
  have hd := hs e.1 e.2 (Documents.get?_eq_some_iff.2 he)
  exact Prod.ext hd.id_eq.symm rfl

/-- The documents stand in order of the ids that they have. -/
theorem Identified.ascending (hs : s.Identified) :
    (s.toList.map Document.id).Pairwise (· < ·) := by
  have hids : s.toList.map Document.id = s.documents.entries.map Prod.fst := by
    rw [hs.entries_eq, List.map_map]
    rfl
  rw [hids, List.pairwise_map]
  exact s.documents.sorted

/-! ## Main statement -/

/-- In every reachable store a search gives what a walk through all documents in order of ids gives:
the fault of its scope, the fault of the first document that has one, or the matches, each once and
in order of ids. -/
theorem find_eq_scan (hs : Reachable h strict s) (classId : String) (query : Layout) :
    (s.find classId query).result = s.scan classId query ∧
      (s.toList.map Document.id).Pairwise (· < ·) ∧
      (∀ fault, h.concreteClass classId = .error fault →
        s.scan classId query = .error fault) ∧
      ∀ base, h.concreteClass classId = .ok base →
        (∀ fault, s.scan classId query = .error fault ↔
          ∃ before doc after, s.toList = before ++ doc :: after ∧
            (∀ d ∈ before, ∃ hit, Query.matchDocument h classId d query = .ok hit) ∧
            Query.matchDocument h classId doc query = .error fault) ∧
        (∀ found, s.scan classId query = .ok found ↔
          (∀ doc ∈ s.toList, ∃ hit, Query.matchDocument h classId doc query = .ok hit) ∧
            found = s.toList.filter (isMatch h classId query)) ∧
        ((s.toList.filter (isMatch h classId query)).map Document.id).Pairwise (· < ·) := by
  have hascending := Identified.ascending (ReachableBy.identified hs)
  refine ⟨result_find hs classId query, hascending, fun fault hb => ?_, fun base hb => ?_⟩
  · rw [scan, hs.hierarchy_eq, hb, error_bind]
  · have hscan : s.scan classId query = matching h classId query s.toList := by
      rw [scan, hs.hierarchy_eq, hb, ok_bind]
    refine ⟨fun fault => ?_, fun found => ?_, ?_⟩
    · rw [hscan, matching_eq_error_iff]
    · rw [hscan, matching_eq_ok_iff]
    · exact hascending.sublist (List.filter_sublist.map Document.id)

end Engine

theorem find_eq_scan_tasks :
    ∃ s, s = (empty .tasks false).run [.create "Estimate" [("hours", .null)] "t1",
        .create "Task" [] "t2", .find "Doc" []] ∧
      (s.find "Note" []).result = .error (.notFound "Note") ∧
      (s.find "Task" []).result = .ok s.toList ∧ s.toList.map Document.id = ["t1", "t2"] := by
  obtain ⟨made, hmade⟩ : ∃ made, made = (empty .tasks false).run
      [.create "Estimate" [("hours", .null)] "t1", .create "Task" [] "t2"] := ⟨_, rfl⟩
  have hreach : Reachable .tasks false made := by
    rw [hmade]
    exact reachable_estimated_task.step (by simp [Action.Ordered, Layout.ordered_iff, Keyed.Sorted])
  have hlist : (made.step (.find "Doc" [])).toList = made.toList := by
    rw [toList, (hreach.performs (.find "Doc" [])).documents_find]
    rfl
  have hids : made.toList.map Document.id = ["t1", "t2"] := by
    rw [hmade]
    rfl
  have hscope : ∀ doc ∈ made.toList, Query.inScope .tasks "Task" doc = true := by
    rw [hmade]
    decide
  have hmatch (doc : Document) (hd : doc ∈ made.toList) :
      Query.matchDocument .tasks "Task" doc [] = .ok true := by
    rw [Query.matchDocument, hscope doc hd, if_pos rfl, Query.matchFields]
  have hsearched : Reachable .tasks false (made.step (.find "Doc" [])) :=
    hreach.step (by simp [Action.Ordered, Layout.ordered_iff, Keyed.Sorted])
  obtain ⟨hnote, -, herror, -⟩ := find_eq_scan hsearched "Note" []
  obtain ⟨htask, -, -, hok⟩ := find_eq_scan hsearched "Task" []
  refine ⟨made.step (.find "Doc" []), by rw [hmade]; rfl, ?_, ?_, by rw [hlist, hids]⟩
  · rw [hnote]
    exact herror _ rfl
  · rw [htask, (hok "Task" rfl).2.1, hlist]
    refine ⟨fun doc hd => ⟨true, hmatch doc hd⟩, ?_⟩
    refine (List.filter_eq_self.2 fun doc hd => ?_).symm
    rw [isMatch, hmatch doc hd]
    rfl

end TypedDocs.Store
