import TypedDocs.Proofs.Hierarchy.Chain

/-!
# Hierarchies from lists

A list of classifiers is registered exactly when each of them gives well-formed names and no id
comes twice; the registry then holds them in order of ids.  A hierarchy that is made of a list
holds what the list does, and is made again of what it holds:

    ofList classifiers = .ok h → (c ∈ h.toList ↔ c ∈ classifiers)           (mem_toList_of_ofList)
    ofList h.toList = .ok h                                                 (ofList_toList)
-/

namespace TypedDocs

variable {classifiers : List Classifier}

/-! ## Registration -/

namespace Registry

variable {r r' : Registry} {c : Classifier}

/-- A registry is determined by its classifiers. -/
theorem eq_of_classifiers (he : r.classifiers = r'.classifiers) : r = r' := by
  obtain ⟨entries, sorted, named⟩ := r
  cases he
  rfl

theorem add_eq_ok_iff :
    r.add c = .ok r' ↔ c.nameFault? = none ∧ r.classifiers.get? c.id = none ∧
      r'.classifiers = r.classifiers.insert c.id c := by
  unfold add
  split
  · next fault hf => simp [hf]
  · next hf =>
    cases hc : r.classifiers.get? c.id with
    | some old => simp [Keyed.contains, hc]
    | none =>
      simp only [Keyed.contains, hc, Option.isSome_none, Bool.false_eq_true, if_false, hf,
        true_and, Except.ok.injEq]
      constructor
      · intro he
        rw [← he]
      · intro he
        exact eq_of_classifiers he.symm

/-- Classifiers are added one after the other exactly when their names are well formed and their
ids are new and all different. -/
theorem foldlM_add_eq_ok_iff :
    classifiers.foldlM add r = .ok r' ↔
      (∀ c ∈ classifiers, c.nameFault? = none ∧ r.classifiers.get? c.id = none) ∧
        (classifiers.map Classifier.id).Nodup ∧
        r'.classifiers = r.classifiers.overlay (classifiers.map fun c => (c.id, c)) := by
  induction classifiers generalizing r with
  | nil =>
    simp only [List.foldlM_nil, pure_eq_ok, Except.ok.injEq, List.not_mem_nil, false_imp_iff,
      implies_true, List.map_nil, List.nodup_nil, true_and, Keyed.overlay, List.foldl_nil]
    exact ⟨fun he => by rw [he], fun he => eq_of_classifiers he.symm⟩
  | cons c rest ih =>
    have hoverlay (m : Keyed Classifier) :
        m.overlay ((c :: rest).map fun c => (c.id, c)) =
          (m.insert c.id c).overlay (rest.map fun c => (c.id, c)) := rfl
    rw [List.foldlM_cons, bind_eq_ok_iff, List.forall_mem_cons, List.map_cons, List.nodup_cons,
      hoverlay]
    constructor
    · rintro ⟨mid, hmid, hrest⟩
      obtain ⟨hname, hnew, hinsert⟩ := add_eq_ok_iff.1 hmid
      obtain ⟨hall, hnodup, hentries⟩ := ih.1 hrest
      rw [hinsert] at hall hentries
      have hother : ∀ d ∈ rest, d.id ≠ c.id := by
        intro d hd he
        have hget := (hall d hd).2
        rw [he, Keyed.get?_insert_self] at hget
        cases hget
      refine ⟨⟨⟨hname, hnew⟩, fun d hd => ⟨(hall d hd).1, ?_⟩⟩, ⟨?_, hnodup⟩, hentries⟩
      · rw [← Keyed.get?_insert_of_ne r.classifiers c (hother d hd)]
        exact (hall d hd).2
      · intro hm
        obtain ⟨d, hd, he⟩ := List.mem_map.1 hm
        exact hother d hd he
    · rintro ⟨⟨⟨hname, hnew⟩, hall⟩, ⟨hnotin, hnodup⟩, hentries⟩
      obtain ⟨mid, hmid⟩ : ∃ mid, r.add c = .ok mid := by
        unfold add
        split
        · next fault hf =>
          rw [hname] at hf
          cases hf
        · rw [if_neg (by simp [Keyed.contains, hnew])]
          exact ⟨_, rfl⟩
      have hinsert := (add_eq_ok_iff.1 hmid).2.2
      refine ⟨mid, hmid, ih.2 ⟨fun d hd => ⟨(hall d hd).1, ?_⟩, hnodup, by rw [hinsert, hentries]⟩⟩
      have hne : d.id ≠ c.id := fun he => hnotin (he ▸ List.mem_map_of_mem hd)
      rw [hinsert, Keyed.get?_insert_of_ne r.classifiers c hne]
      exact (hall d hd).2

/-- Classifiers with different ids stand under different keys. -/
theorem nodup_keys (hids : (classifiers.map Classifier.id).Nodup) :
    ((classifiers.map fun c => (c.id, c)).map Prod.fst).Nodup := by
  rw [List.map_map]
  exact hids

theorem ofList_eq_ok_iff :
    ofList classifiers = .ok r ↔
      (∀ c ∈ classifiers, c.nameFault? = none) ∧ (classifiers.map Classifier.id).Nodup ∧
        r.classifiers = Keyed.ofEntries (classifiers.map fun c => (c.id, c)) := by
  rw [ofList, foldlM_add_eq_ok_iff]
  simp [empty, Keyed.overlay, Keyed.ofEntries]

theorem exists_ofList (hnames : ∀ c ∈ classifiers, c.nameFault? = none)
    (hids : (classifiers.map Classifier.id).Nodup) : ∃ r, ofList classifiers = .ok r := by
  have hnamed : ∀ e ∈ Keyed.ofEntries (classifiers.map fun c => (c.id, c)),
      e.1 = e.2.id ∧ e.2.nameFault? = none := by
    intro e he
    obtain ⟨c, hc, rfl⟩ := List.mem_map.1 (Keyed.mem_of_mem_ofEntries he)
    exact ⟨rfl, hnames c hc⟩
  exact ⟨⟨_, Keyed.sorted_ofEntries _, hnamed⟩, ofList_eq_ok_iff.2 ⟨hnames, hids, rfl⟩⟩

theorem get?_of_ofList (hr : ofList classifiers = .ok r) (id : String) :
    r.classifiers.get? id = Keyed.get? (classifiers.map fun c => (c.id, c)) id := by
  obtain ⟨-, hids, hentries⟩ := ofList_eq_ok_iff.1 hr
  rw [hentries, Keyed.get?_ofEntries (nodup_keys hids)]

/-- Registration follows no parents: its faults are of the names and ids alone. -/
theorem foldlM_add_eq_error {fault : Fault} (he : classifiers.foldlM add r = .error fault) :
    (∃ c ∈ classifiers, c.nameFault? = some fault) ∨
      ∃ c ∈ classifiers, fault = .alreadyExists c.id := by
  induction classifiers generalizing r with
  | nil => cases he
  | cons c rest ih =>
    rw [List.foldlM_cons] at he
    cases hadd : r.add c with
    | ok mid =>
      rw [hadd, ok_bind] at he
      rcases ih he with ⟨d, hd, hf⟩ | ⟨d, hd, hf⟩
      · exact .inl ⟨d, List.mem_cons_of_mem _ hd, hf⟩
      · exact .inr ⟨d, List.mem_cons_of_mem _ hd, hf⟩
    | error f =>
      rw [hadd] at he
      cases he
      unfold add at hadd
      split at hadd
      · next hf =>
        cases hadd
        exact .inl ⟨c, List.mem_cons_self, hf⟩
      · split at hadd
        · cases hadd
          exact .inr ⟨c, List.mem_cons_self, rfl⟩
        · cases hadd

end Registry

/-! ## Hierarchies -/

namespace Hierarchy

variable {h : Hierarchy} {c : Classifier}

theorem ofRegistry_eq_ok_iff {r : Registry} : ofRegistry r = .ok h ↔ h.toRegistry = r := by
  unfold ofRegistry
  split
  · next fault hf =>
    simp only [reduceCtorEq, false_iff]
    rintro rfl
    have hnone := List.findSome?_eq_none_iff.2 h.grounded
    rw [hf] at hnone
    cases hnone
  · simp only [Except.ok.injEq]
    constructor
    · intro he
      rw [← he]
    · rintro rfl
      rfl

theorem ofList_eq_ok_iff :
    ofList classifiers = .ok h ↔ Registry.ofList classifiers = .ok h.toRegistry := by
  rw [ofList, bind_eq_ok_iff]
  simp [ofRegistry_eq_ok_iff]

/-- A list fails to make a hierarchy at its registration or on the chain of a registered
classifier. -/
theorem ofList_eq_error {fault : Fault} (he : ofList classifiers = .error fault) :
    Registry.ofList classifiers = .error fault ∨
      ∃ r, Registry.ofList classifiers = .ok r ∧ ∃ c, r.classifiers.get? c.id = some c ∧
        r.chainFault? c.id r.classifiers.length c = some fault := by
  rw [ofList] at he
  cases hr : Registry.ofList classifiers with
  | error f =>
    rw [hr] at he
    cases he
    exact .inl rfl
  | ok r =>
    rw [hr, ok_bind, ofRegistry] at he
    split at he
    · next f hf =>
      cases he
      obtain ⟨e, hmem, hfault⟩ := List.exists_of_findSome?_eq_some hf
      have hid : e.1 = e.2.id := (r.named e hmem).1
      rw [hid] at hfault
      refine .inr ⟨r, rfl, e.2, Keyed.get?_of_mem r.sorted.nodup ?_, hfault⟩
      rw [← hid]
      exact hmem
    · cases he

theorem entries_eq_map_toList (h : Hierarchy) :
    h.classifiers = h.toList.map fun c => (c.id, c) := by
  rw [toList, List.map_map]
  refine (List.map_id _).symm.trans (List.map_congr_left fun e he => ?_)
  exact Prod.ext (h.named e he).1 rfl

/-- A classifier stands under its id where it stands at all. -/
theorem mem_entries_iff : (c.id, c) ∈ classifiers.map (fun c => (c.id, c)) ↔ c ∈ classifiers := by
  simp only [List.mem_map, Prod.mk.injEq]
  constructor
  · rintro ⟨d, hd, -, rfl⟩
    exact hd
  · intro hc
    exact ⟨c, hc, rfl, rfl⟩

theorem mem_toList_iff : c ∈ h.toList ↔ h.find? c.id = some c := by
  rw [find?, h.sorted.get?_eq_some_iff, entries_eq_map_toList h, mem_entries_iff]

theorem map_id_toList (h : Hierarchy) : h.toList.map Classifier.id = h.classifiers.map Prod.fst := by
  rw [toList, List.map_map]
  exact List.map_congr_left fun e he => (h.named e he).1.symm

/-- What a hierarchy holds makes the hierarchy again. -/
theorem ofList_toList (h : Hierarchy) : ofList h.toList = .ok h := by
  rw [ofList_eq_ok_iff, Registry.ofList_eq_ok_iff, ← entries_eq_map_toList, map_id_toList]
  refine ⟨fun c hc => ?_, h.sorted.nodup, (Keyed.ofEntries_of_sorted h.sorted).symm⟩
  exact nameFault?_of_find? (mem_toList_iff.1 hc)

theorem find?_of_ofList (ho : ofList classifiers = .ok h) (id : String) :
    h.find? id = Keyed.get? (classifiers.map fun c => (c.id, c)) id :=
  Registry.get?_of_ofList (ofList_eq_ok_iff.1 ho) id

/-- A hierarchy holds exactly the classifiers that it is made of. -/
theorem mem_toList_of_ofList (ho : ofList classifiers = .ok h) :
    c ∈ h.toList ↔ c ∈ classifiers := by
  obtain ⟨-, hids, -⟩ := Registry.ofList_eq_ok_iff.1 (ofList_eq_ok_iff.1 ho)
  rw [mem_toList_iff, find?_of_ofList ho]
  constructor
  · intro hc
    exact mem_entries_iff.1 (Keyed.mem_of_get? hc)
  · intro hc
    exact Keyed.get?_of_mem (Registry.nodup_keys hids) (mem_entries_iff.2 hc)

end Hierarchy

end TypedDocs
