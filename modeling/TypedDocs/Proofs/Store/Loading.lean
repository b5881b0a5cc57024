import TypedDocs.Pattern.Basic
import TypedDocs.Store.Run
import TypedDocs.Proofs.Store.Admission
import TypedDocs.Proofs.Value.Order

/-!
# Loads of documents

A load succeeds exactly when each of its documents is identified and their ids are new and all
different (`Loadable`), however checks, clashes of ids and the writing of documents follow one
another.  The documents are then those of before and the loaded ones, each as it was given, and the
order in which they were given does not show.

    (∃ count, (s.load docs).result = .ok count) ↔ s.Loadable docs              (exists_load_iff)
    other.Perm docs → (s.load other).store = (s.load docs).store               (store_load_of_perm)
-/

namespace TypedDocs.Store

variable {s : Store} {docs other : List Document} {d : Documents}

/-! ## Definition -/

/-- The documents under the ids that they have. -/
def entriesOf (docs : List Document) : List (String × Document) :=
  docs.map fun doc => (Document.id doc, doc)

/-- What documents are to be, that they can be loaded. -/
structure Loadable (s : Store) (docs : List Document) : Prop where
  identified : ∀ doc ∈ docs, doc.Identified s.hierarchy (Document.id doc)
  fresh : ∀ doc ∈ docs, s.documents.get? (Document.id doc) = none
  distinct : (docs.map Document.id).Nodup

/-! ## Staging -/

/-- No key comes twice among the stored entries and the new ones. -/
theorem Loadable.nodup_keys (hl : s.Loadable docs) :
    ((s.documents.entries ++ entriesOf docs).map Prod.fst).Nodup := by
  have hkeys : (entriesOf docs).map Prod.fst = docs.map Document.id := by
    rw [entriesOf, List.map_map]
    rfl
  rw [List.map_append, hkeys, List.nodup_append]
  refine ⟨s.documents.sorted.nodup, hl.distinct, ?_⟩
  intro id hold new hnew he
  obtain ⟨doc, hdoc, rfl⟩ := List.mem_map.1 hnew
  exact Keyed.get?_eq_none_iff.1 (hl.fresh doc hdoc) (he ▸ hold)

theorem Loadable.of_perm (hl : s.Loadable docs) (hp : other.Perm docs) : s.Loadable other where
  identified doc hd := hl.identified doc (hp.mem_iff.1 hd)
  fresh doc hd := hl.fresh doc (hp.mem_iff.1 hd)
  distinct := (hp.map Document.id).nodup_iff.2 hl.distinct

theorem stage_eq_ok_iff_loadable :
    stage s.hierarchy s.documents docs = .ok d ↔
      s.Loadable docs ∧ d.entries = Keyed.ofEntries (s.documents.entries ++ entriesOf docs) := by
  rw [stage_eq_ok_iff, s.documents.sorted.overlay_eq_ofEntries]
  constructor
  · rintro ⟨hall, hdistinct, hentries⟩
    exact ⟨⟨fun doc hd => (hall doc hd).1, fun doc hd => (hall doc hd).2, hdistinct⟩, hentries⟩
  · rintro ⟨hl, hentries⟩
    exact ⟨fun doc hd => ⟨hl.identified doc hd, hl.fresh doc hd⟩, hl.distinct, hentries⟩

theorem Loadable.exists_stage (hl : s.Loadable docs) :
    ∃ d, stage s.hierarchy s.documents docs = .ok d :=
  ⟨⟨Keyed.ofEntries (s.documents.entries ++ entriesOf docs), Keyed.sorted_ofEntries _⟩,
    stage_eq_ok_iff_loadable.2 ⟨hl, rfl⟩⟩

/-! ## Loading -/

/-- A load is refused and leaves the store, or its documents can be loaded and it holds them
afterwards. -/
theorem load_cases (s : Store) (docs : List Document) :
    (¬ s.Loadable docs ∧ ∃ fault, s.load docs = s.reply (.error fault)) ∨
      s.Loadable docs ∧ ∃ d : Documents,
        d.entries = Keyed.ofEntries (s.documents.entries ++ entriesOf docs) ∧
        s.load docs = ⟨.ok docs.length, { s with documents := d, index := none },
          [.documentsLoaded docs.length d.size]⟩ := by
  cases hd : stage s.hierarchy s.documents docs with
  | error fault =>
    refine .inl ⟨fun hl => ?_, fault, by simp only [load, hd]⟩
    obtain ⟨d, hok⟩ := hl.exists_stage
    rw [hd] at hok
    cases hok
  | ok d =>
    obtain ⟨hl, hentries⟩ := stage_eq_ok_iff_loadable.1 hd
    exact .inr ⟨hl, d, hentries, by simp only [load, hd]⟩

theorem exists_load_iff : (∃ count, (s.load docs).result = .ok count) ↔ s.Loadable docs := by
  rcases load_cases s docs with ⟨hnot, fault, hload⟩ | ⟨hl, d, -, hload⟩
  · rw [hload]
    refine ⟨?_, fun hl => absurd hl hnot⟩
    rintro ⟨count, hc⟩
    cases hc
  · rw [hload]
    exact ⟨fun _ => hl, fun _ => ⟨_, rfl⟩⟩

theorem perm_entries_load {count : Nat} (hc : (s.load docs).result = .ok count) :
    count = docs.length ∧
      (s.load docs).store.documents.entries.Perm (s.documents.entries ++ entriesOf docs) := by
  rcases load_cases s docs with ⟨-, fault, hload⟩ | ⟨hl, d, hentries, hload⟩
  · rw [hload] at hc
    cases hc
  · rw [hload] at hc ⊢
    cases hc
    refine ⟨rfl, ?_⟩
    rw [hentries]
    exact Keyed.perm_ofEntries hl.nodup_keys

theorem store_load_of_perm (s : Store) (hp : other.Perm docs) :
    (s.load other).store = (s.load docs).store := by
  rcases load_cases s docs with ⟨hnot, fault, hload⟩ | ⟨hl, d, hentries, hload⟩
  · rcases load_cases s other with ⟨-, fault', hload'⟩ | ⟨hl', -⟩
    · rw [hload, hload']
      rfl
    · exact absurd (hl'.of_perm hp.symm) hnot
  · rcases load_cases s other with ⟨hnot', -⟩ | ⟨hl', d', hentries', hload'⟩
    · exact absurd (hl.of_perm hp) hnot'
    · have hsame : d' = d := by
        refine Documents.eq_of_entries ?_
        rw [hentries', hentries]
        exact Keyed.ofEntries_of_perm hl'.nodup_keys ((hp.map _).append_left _)
      rw [hload, hload', hsame]

/-! ## Main statement -/

/-- A load succeeds exactly when each document is identified, no two have one id, and none has the id
of a stored one.  It counts them all, and afterwards there are the documents of before and the loaded
ones, each once under its id and as it was given.  The same documents in another order lead to the
same store. -/
theorem load_exact (s : Store) (docs : List Document) :
    ((∃ count, (s.load docs).result = .ok count) ↔ s.Loadable docs) ∧
    (∀ count, (s.load docs).result = .ok count →
      count = docs.length ∧ (s.load docs).store.documents.entries.Perm
        (s.documents.entries ++ docs.map fun doc => (Document.id doc, doc))) ∧
    ∀ other, other.Perm docs → (s.load other).store = (s.load docs).store :=
  ⟨exists_load_iff, fun _ hc => perm_entries_load hc, fun _ hp => store_load_of_perm s hp⟩

/-- An estimated task and a person are loaded beside a task in either order, and neither is loaded
twice. -/
theorem load_exact_estimated_task :
    ∃ (s : Store) (task person : Document),
      (s = (empty .tasks false).run [.create "Task" [] "t2"] ∧
        task = [("_class", .string "Task"), ("_id", .string "t1"),
          ("_mixins", .array [.string "Estimate"]), ("hours|Estimate", .null)] ∧
        person = [("_class", .string "Person"), ("_id", .string "p1")]) ∧
      (s.load [task, person]).result = .ok 2 ∧ s.Loadable [task, person] ∧
      (Document.id task, task) ∈ (s.load [task, person]).store.documents.entries ∧
      (s.load [person, task]).store = (s.load [task, person]).store ∧
      ¬ ∃ count, (s.load [person, task, person]).result = .ok count := by
  obtain ⟨s, task, person, hgiven, hcount⟩ : ∃ (s : Store) (task person : Document),
      (s = (empty .tasks false).run [.create "Task" [] "t2"] ∧
        task = [("_class", .string "Task"), ("_id", .string "t1"),
          ("_mixins", .array [.string "Estimate"]), ("hours|Estimate", .null)] ∧
        person = [("_class", .string "Person"), ("_id", .string "p1")]) ∧
      (s.load [task, person]).result = .ok 2 := ⟨_, _, _, ⟨rfl, rfl, rfl⟩, rfl⟩
  obtain ⟨accepted, exact, order⟩ := load_exact s [task, person]
  obtain ⟨-, hentries⟩ := exact 2 hcount
  refine ⟨s, task, person, hgiven, hcount, accepted.1 ⟨2, hcount⟩, ?stored,
    order _ (List.Perm.swap _ _ []), ?twice⟩
  case stored => exact hentries.mem_iff.2 (List.mem_append_right _ List.mem_cons_self)
  case twice =>
    intro hloaded
    have hdistinct := ((load_exact s [person, task, person]).1.1 hloaded).distinct
    simp at hdistinct

end TypedDocs.Store
