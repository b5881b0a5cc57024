import Mathlib.Data.List.Induction
import TypedDocs.Lookup
import TypedDocs.Proofs.View.Declarations

/-!
# Tables and the resolver agree

The resolver keeps the attributes that it has found, and a builder the tables that it has built.
Whatever was asked for before, what is kept does not show in the answers, so that both give the
nearest declaration and list the same names; and the tables that are kept are those of the chains
that were asked for:

    (after h calls).Holds h calls                                                 (holds_after)
-/

namespace TypedDocs

/-! ## Tables that are kept -/

namespace Views

variable {h : Hierarchy} {v : Views} {id : String}

/-- With a table those of the whole chain of its classifier are kept. -/
def Closed (h : Hierarchy) (v : Views) : Prop :=
  ∀ id ∈ v.tables.keys, ∀ other, h.isSubtype id other = true → other ∈ v.tables.keys

theorem sorted_buildChain (hs : v.tables.Sorted) (chain : List Classifier) :
    (v.buildChain chain).2.1.tables.Sorted := by
  induction chain with
  | nil => exact hs
  | cons c parents ih =>
    rw [buildChain]
    cases v.tables.get? c.id with
    | some t => exact hs
    | none => exact ih.insert _ _

/-- Building the tables of the rest of a chain keeps those of its classifiers besides the old. -/
theorem mem_keys_buildChain (hv : v.Closed h) {chain : List Classifier}
    (hs : chain <:+ h.ancestors id) (other : String) :
    other ∈ (v.buildChain chain).2.1.tables.keys ↔
      other ∈ v.tables.keys ∨ ∃ c ∈ chain, c.id = other := by
  induction chain with
  | nil => simp [buildChain]
  | cons c parents ih =>
    rw [buildChain]
    cases ht : v.tables.get? c.id with
    | some t =>
      -- What stands behind a classifier whose table is kept is kept as well.
      have hkept : c.id ∈ v.tables.keys := Keyed.mem_keys_of_get? ht
      have hchain := (Hierarchy.find?_and_ancestors_of_suffix hs).2
      constructor
      · exact .inl
      · rintro (hother | ⟨d, hd, rfl⟩)
        · exact hother
        · refine hv c.id hkept d.id (Hierarchy.isSubtype_iff.2 ⟨d, ?_, rfl⟩)
          rw [hchain]
          exact hd
    | none =>
      have hparents := ih ((List.suffix_cons c parents).trans hs)
      show other ∈ Keyed.keys (Keyed.insert _ c.id _) ↔ _
      rw [Keyed.mem_keys_insert, hparents, List.exists_mem_cons_iff]
      constructor
      · rintro (rfl | hold | hrest)
        · exact .inr (.inl rfl)
        · exact .inl hold
        · exact .inr (.inr hrest)
      · rintro (hold | rfl | hrest)
        · exact .inr (.inl hold)
        · exact .inl rfl
        · exact .inr (.inr hrest)

theorem sorted_table (hs : v.tables.Sorted) (h : Hierarchy) (id : String) :
    (v.table h id).2.1.tables.Sorted := by
  rw [table]
  cases v.tables.get? id with
  | some t => exact hs
  | none =>
    cases h.find? id with
    | none => exact hs
    | some c => exact sorted_buildChain hs _

/-- Asking for a table keeps those of the chain of its classifier besides the old. -/
theorem mem_keys_table (hv : v.Closed h) (id other : String) :
    other ∈ (v.table h id).2.1.tables.keys ↔
      other ∈ v.tables.keys ∨ h.isSubtype id other = true := by
  rw [table]
  cases ht : v.tables.get? id with
  | some t =>
    have hkept : id ∈ v.tables.keys := Keyed.mem_keys_of_get? ht
    constructor
    · exact .inl
    · rintro (hother | hsub)
      · exact hother
      · exact hv id hkept other hsub
  | none =>
    cases hc : h.find? id with
    | none => simp [Hierarchy.isSubtype_eq_false hc]
    | some c =>
      rw [Hierarchy.isSubtype_iff]
      exact mem_keys_buildChain hv (List.suffix_refl (h.ancestors id)) other

end Views

/-! ## Runs of lookups -/

namespace Kept

variable {h : Hierarchy} {calls : List Lookup} {k : Kept}

/-- What is kept after some calls: attributes that were resolved, tables of their classifiers, and
tables for just the chains that were asked for. -/
structure Holds (h : Hierarchy) (calls : List Lookup) (k : Kept) : Prop where
  attributes : h.Remembers k.attributes
  views : k.views.Faithful h
  sorted : k.views.tables.Sorted
  mem_keys_iff : ∀ id, id ∈ k.views.tables.keys ↔
    ∃ asked, .table asked ∈ calls ∧ h.isSubtype asked id = true

theorem Holds.closed (hk : k.Holds h calls) : k.views.Closed h := by
  intro id hid other hsub
  obtain ⟨asked, hasked, hchain⟩ := (hk.mem_keys_iff id).1 hid
  exact (hk.mem_keys_iff other).2 ⟨asked, hasked, Hierarchy.isSubtype_trans hchain hsub⟩

theorem holds_empty (h : Hierarchy) : empty.Holds h [] where
  attributes := Memo.faithful_empty _
  views := Views.faithful_empty h
  sorted := List.Pairwise.nil
  mem_keys_iff id := by simp [empty, Views.empty, Keyed.keys]

theorem Holds.step (hk : k.Holds h calls) (call : Lookup) :
    (k.step h call).Holds h (calls ++ [call]) := by
  cases call with
  | resolve id name =>
    refine ⟨(Hierarchy.resolveKept_spec hk.attributes id name).2, hk.views, hk.sorted, ?_⟩
    intro other
    rw [Kept.step, hk.mem_keys_iff]
    simp
  | table id =>
    refine ⟨hk.attributes, Views.faithful_table hk.views id, Views.sorted_table hk.sorted h id, ?_⟩
    intro other
    rw [Kept.step, Views.mem_keys_table hk.closed, hk.mem_keys_iff]
    constructor
    · rintro (⟨asked, hasked, hsub⟩ | hsub)
      · exact ⟨asked, List.mem_append_left _ hasked, hsub⟩
      · exact ⟨id, by simp, hsub⟩
    · rintro ⟨asked, hasked, hsub⟩
      rcases List.mem_append.1 hasked with hbefore | hnow
      · exact .inl ⟨asked, hbefore, hsub⟩
      · cases List.mem_singleton.1 hnow
        exact .inr hsub

theorem holds_after (h : Hierarchy) (calls : List Lookup) : (after h calls).Holds h calls := by
  induction calls using List.reverseRecOn with
  | nil => exact holds_empty h
  | append_singleton calls call ih =>
    rw [after, List.foldl_append]
    exact ih.step call

/-! ## Answers -/

theorem Holds.resolve_eq (hk : k.Holds h calls) (id name : String) :
    k.resolve h id name = h.resolve id name :=
  (Hierarchy.resolveKept_spec hk.attributes id name).1

theorem Holds.attributesOf_eq (hk : k.Holds h calls) (id : String) :
    k.attributesOf h id = h.attributes id :=
  (Hierarchy.attributesKept_spec hk.attributes id).1

theorem Holds.table_eq (hk : k.Holds h calls) (id : String) :
    k.table h id = (h.get id).map (AccessorTable.of h) :=
  Views.table_eq hk.views id

/-! ## Main statement -/

/-- After any calls, the table of a known classifier and the resolver denote the same attribute for
every name, that of the nearest declaration, and list the same names, each once; both refuse an
unknown classifier; and the tables that are kept are those of the chains that were asked for. -/
theorem table_agrees (h : Hierarchy) (calls : List Lookup) :
    (∀ id c, h.find? id = some c → ∃ t attrs,
      (after h calls).table h id = .ok t ∧ (after h calls).attributesOf h id = .ok attrs ∧
      (∀ name, h.Denoted id name (t.accessor? name) ((after h calls).resolve h id name)) ∧
      t.names.Nodup ∧ (attrs.map (·.name)).Nodup ∧
      ∀ name, name ∈ t.names ↔ name ∈ attrs.map (·.name)) ∧
    (∀ id, h.find? id = none →
      (after h calls).table h id = .error (.notFound id) ∧
      (after h calls).attributesOf h id = .error (.notFound id) ∧
      ∀ name, (after h calls).resolve h id name = .error (.notFound id)) ∧
    (after h calls).views.tables.keys.Nodup ∧
    ∀ id, id ∈ (after h calls).views.tables.keys ↔
      ∃ asked, .table asked ∈ calls ∧ h.isSubtype asked id = true := by
  have hk := holds_after h calls
  refine ⟨?known, ?unknown, hk.sorted.nodup, hk.mem_keys_iff⟩
  case known =>
    intro id c hc
    obtain ⟨attrs, hattrs, hnames⟩ := Hierarchy.attributes_eq_ok hc
    refine ⟨AccessorTable.of h c, attrs, ?_, ?_, ?_, AccessorTable.nodup_names_of h c, ?_, ?_⟩
    · rw [hk.table_eq, Hierarchy.get_eq_ok_iff.2 hc]
      rfl
    · rw [hk.attributesOf_eq, hattrs]
    · intro name
      rw [hk.resolve_eq]
      exact Hierarchy.denoted_of hc name
    · rw [hnames]
      exact Hierarchy.nodup_namesOf _
    · intro name
      rw [hnames, AccessorTable.mem_names_of hc, Hierarchy.mem_namesOf_iff]
  case unknown =>
    intro id hc
    have hget : h.get id = .error (.notFound id) := by rw [Hierarchy.get, hc]
    refine ⟨?_, ?_, ?_⟩
    · rw [hk.table_eq, hget]
      rfl
    · rw [hk.attributesOf_eq, Hierarchy.attributes, hget, error_bind]
    · intro name
      rw [hk.resolve_eq, Hierarchy.resolve, hget, error_bind]

/-- After a table of estimates and a name of tasks were asked for, the table of tasks is kept, gives
the name as the resolver does, and lists the labels as the attributes do; that of persons is not
kept. -/
theorem table_agrees_estimate :
    ∃ t attrs,
      (after .tasks [.table "Estimate", .resolve "Task" "name"]).table .tasks "Task" = .ok t ∧
      (after .tasks [.table "Estimate", .resolve "Task" "name"]).attributesOf .tasks "Task" =
        .ok attrs ∧
      t.accessor? "name" = some ⟨.plain "name", "Task"⟩ ∧
      "labels" ∈ t.names ∧ "labels" ∈ attrs.map (·.name) ∧
      "Doc" ∈ (after .tasks [.table "Estimate", .resolve "Task" "name"]).views.tables.keys ∧
      "Person" ∉ (after .tasks [.table "Estimate", .resolve "Task" "name"]).views.tables.keys := by
  obtain ⟨known, -, -, kept⟩ :=
    table_agrees .tasks [.table "Estimate", .resolve "Task" "name"]
  obtain ⟨t, attrs, ht, hattrs, hdenoted, -, -, hnames⟩ := known "Task" _ rfl
  have hres : (after .tasks [.table "Estimate", .resolve "Task" "name"]).resolve .tasks "Task"
      "name" = .ok ⟨⟨"name", .string⟩, "Task", .plain "name"⟩ := rfl
  have hlabels : "labels" ∈ t.names := by
    cases ht
    decide
  refine ⟨t, attrs, ht, hattrs, ?_, hlabels, (hnames "labels").1 hlabels, ?_, ?_⟩
  · rw [(hdenoted "name").accessor_eq, hres]
    rfl
  · exact (kept "Doc").2 ⟨"Estimate", by simp, by decide⟩
  · intro hperson
    obtain ⟨asked, hasked, hsub⟩ := (kept "Person").1 hperson
    obtain rfl : asked = "Estimate" := by simpa using hasked
    revert hsub
    decide

end Kept

end TypedDocs
