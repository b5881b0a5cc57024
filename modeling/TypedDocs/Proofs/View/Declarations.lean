import Mathlib.Data.List.Nodup
import TypedDocs.Proofs.View.Tables

/-!
# Declarations on a chain

There are two ways from a classifier and a name to an attribute: the resolver follows the chain of
the classifier, and a table of accessors has a layer for each classifier of the chain.  Both end at
the nearest classifier on the chain that declares the name, or fail when none does:

    h.find? id = some c →
      h.Denoted id name ((AccessorTable.of h c).accessor? name) (h.resolve id name)   (denoted_of)

and both list the names that are declared on the chain (`AccessorTable.mem_names_of`,
`Hierarchy.attributes_eq_ok`).
-/

namespace TypedDocs

/-! ## Definitions -/

namespace Hierarchy

/-- The first classifier on a chain that declares a name. -/
def Nearest (h : Hierarchy) (id name : String) (owner : Classifier) : Prop :=
  ∃ before after, h.ancestors id = before ++ owner :: after ∧ owner.Declares name ∧
    ∀ c ∈ before, ¬ c.Declares name

/-- What an accessor and a resolved attribute are, together, for a classifier and a name: those of
the nearest declaration, or nothing where there is none on the chain. -/
inductive Denoted (h : Hierarchy) (id name : String) :
    Option Accessor → Except Fault ResolvedAttribute → Prop where
  | declared {owner : Classifier} {a : Attribute} (hn : h.Nearest id name owner)
    (ha : a ∈ owner.attributes) (hname : a.name = name) :
    Denoted h id name (some ⟨owner.keyOf name, owner.id⟩)
      (.ok { a with owner := owner.id, key := owner.keyOf name })
  | undeclared (hn : ∀ c ∈ h.ancestors id, ¬ c.Declares name) :
    Denoted h id name none (.error (.attributeNotFound id name))

/-! ## Nearest declarations -/

variable {h : Hierarchy} {id name : String} {c : Classifier}

/-- A name is declared on the chain of a known classifier, and the resolver gives the nearest
declaration, or it is not and the resolver says so. -/
theorem resolve_cases (hc : h.find? id = some c) (name : String) :
    (∃ owner a, h.Nearest id name owner ∧ a ∈ owner.attributes ∧ a.name = name ∧
      h.resolve id name = .ok { a with owner := owner.id, key := owner.keyOf name }) ∨
    ((∀ c ∈ h.ancestors id, ¬ c.Declares name) ∧
      h.resolve id name = .error (.attributeNotFound id name)) := by
  cases hf : (h.ancestors id).findSome? fun c => declared? c name with
  | some r =>
    left
    obtain ⟨before, owner, after, hchain, hd, hnone⟩ := List.findSome?_eq_some_iff.1 hf
    obtain ⟨a, ha, hname, rfl⟩ := declared?_eq_some hd
    have hnearest : h.Nearest id name owner := by
      refine ⟨before, after, hchain, ⟨a, ha, hname⟩, ?_⟩
      intro c hc
      exact declared?_eq_none_iff.1 (hnone c hc)
    exact ⟨owner, a, hnearest, ha, hname, resolve_eq_ok_iff.2 hf⟩
  | none =>
    right
    have hnone : ∀ c ∈ h.ancestors id, ¬ c.Declares name := by
      intro c hc
      exact declared?_eq_none_iff.1 (List.findSome?_eq_none_iff.1 hf c hc)
    refine ⟨hnone, ?_⟩
    rw [resolve, get, hc, ok_bind, hf]

theorem denoted_of (hc : h.find? id = some c) (name : String) :
    h.Denoted id name ((AccessorTable.of h c).accessor? name) (h.resolve id name) := by
  rw [AccessorTable.accessor?_of h hc]
  rcases resolve_cases hc name with ⟨owner, a, hnearest, ha, hname, hres⟩ | ⟨hnone, hres⟩
  · rw [hres]
    exact .declared hnearest ha hname
  · rw [hres]
    exact .undeclared hnone

/-- An accessor is that of the attribute. -/
theorem Denoted.accessor_eq {accessor : Option Accessor} {result : Except Fault ResolvedAttribute}
    (hd : h.Denoted id name accessor result) :
    accessor = result.toOption.map fun r => ⟨r.key, r.owner⟩ := by
  cases hd <;> rfl

end Hierarchy

/-! ## Names of tables -/

namespace AccessorTable

theorem mem_namesOf_iff {layers : List (Keyed Accessor)} {name : String} :
    name ∈ namesOf layers ↔ ∃ layer ∈ layers, name ∈ layer.keys := by
  induction layers with
  | nil => simp [namesOf]
  | cons layer layers ih =>
    rw [namesOf, List.mem_append, List.mem_filter, ih, List.exists_mem_cons_iff]
    constructor
    · rintro (hl | ⟨hrest, -⟩)
      · exact .inl hl
      · exact .inr hrest
    · rintro (hl | hrest)
      · exact .inl hl
      · by_cases hl : name ∈ layer.keys
        · exact .inl hl
        · refine .inr ⟨hrest, ?_⟩
          rw [Keyed.mem_keys_iff] at hl
          simpa [Keyed.contains] using hl

/-- No name is listed twice, as those of a layer are not listed again from a later one. -/
theorem nodup_namesOf {layers : List (Keyed Accessor)} (hl : ∀ layer ∈ layers, layer.keys.Nodup) :
    (namesOf layers).Nodup := by
  induction layers with
  | nil => exact List.nodup_nil
  | cons layer layers ih =>
    rw [List.forall_mem_cons] at hl
    rw [namesOf, List.nodup_append]
    refine ⟨hl.1, (ih hl.2).filter _, ?_⟩
    intro own hown inherited hinherited
    have hnot := (List.mem_filter.1 hinherited).2
    rintro rfl
    rw [Keyed.mem_keys_iff] at hown
    simp [Keyed.contains, hown] at hnot

variable {h : Hierarchy} {id name : String} {c : Classifier}

theorem mem_keys_layerOf (hn : c.nameFault? = none) : name ∈ (layerOf c).keys ↔ c.Declares name := by
  rw [Keyed.mem_keys_iff, get?_layerOf hn, Option.isSome_map, ← Option.ne_none_iff_isSome, Ne,
    Hierarchy.declared?_eq_none_iff, Classical.not_not]

/-- The names of a table are those that are declared on the chain of its classifier. -/
theorem mem_names_of (hc : h.find? id = some c) :
    name ∈ (AccessorTable.of h c).names ↔ ∃ d ∈ h.ancestors id, d.Declares name := by
  have hid := Hierarchy.id_of_find? hc
  rw [names, AccessorTable.of, mem_namesOf_iff, hid]
  constructor
  · rintro ⟨layer, hlayer, hname⟩
    obtain ⟨d, hd, rfl⟩ := List.mem_map.1 hlayer
    have hfault := Hierarchy.nameFault?_of_find? (Hierarchy.find?_of_mem_ancestors hd)
    exact ⟨d, hd, (mem_keys_layerOf hfault).1 hname⟩
  · rintro ⟨d, hd, hname⟩
    have hfault := Hierarchy.nameFault?_of_find? (Hierarchy.find?_of_mem_ancestors hd)
    exact ⟨layerOf d, List.mem_map_of_mem hd, (mem_keys_layerOf hfault).2 hname⟩

theorem nodup_names_of (h : Hierarchy) (c : Classifier) : (AccessorTable.of h c).names.Nodup := by
  refine nodup_namesOf ?_
  intro layer hlayer
  obtain ⟨d, -, rfl⟩ := List.mem_map.1 hlayer
  exact (Keyed.sorted_ofEntries _).nodup

end AccessorTable

/-! ## Names of attributes -/

namespace Hierarchy

/-- Names in the order in which they first come. -/
def addNames (seen : List String) (names : List String) : List String :=
  names.foldl (fun seen name => if seen.contains name then seen else seen ++ [name]) seen

theorem mem_addNames {seen names : List String} {name : String} :
    name ∈ addNames seen names ↔ name ∈ seen ∨ name ∈ names := by
  induction names generalizing seen with
  | nil => simp [addNames]
  | cons first rest ih =>
    show name ∈ addNames (if seen.contains first then seen else seen ++ [first]) rest ↔ _
    rw [ih, List.mem_cons]
    by_cases hf : first ∈ seen
    · rw [if_pos (List.contains_iff_mem.2 hf)]
      constructor
      · rintro (hs | hr)
        · exact .inl hs
        · exact .inr (.inr hr)
      · rintro (hs | rfl | hr)
        · exact .inl hs
        · exact .inl hf
        · exact .inr hr
    · rw [if_neg (by simpa using hf), List.mem_append, List.mem_singleton, or_assoc]

theorem nodup_addNames {seen : List String} (hs : seen.Nodup) (names : List String) :
    (addNames seen names).Nodup := by
  induction names generalizing seen with
  | nil => exact hs
  | cons first rest ih =>
    show (addNames (if seen.contains first then seen else seen ++ [first]) rest).Nodup
    by_cases hf : first ∈ seen
    · rw [if_pos (List.contains_iff_mem.2 hf)]
      exact ih hs
    · rw [if_neg (by simpa using hf)]
      refine ih ?_
      rw [List.nodup_append]
      refine ⟨hs, List.nodup_singleton first, ?_⟩
      intro old hold new hnew
      rw [List.mem_singleton.1 hnew]
      rintro rfl
      exact hf hold

theorem namesOf_eq_addNames (classifiers : List Classifier) :
    namesOf classifiers = addNames [] (classifiers.flatMap fun c => c.attributes.map (·.name)) := by
  rw [namesOf, addNames, List.foldl_flatMap]
  simp only [List.foldl_map]

theorem mem_namesOf_iff {classifiers : List Classifier} {name : String} :
    name ∈ namesOf classifiers ↔ ∃ c ∈ classifiers, c.Declares name := by
  simp [namesOf_eq_addNames, mem_addNames, Classifier.Declares]

theorem nodup_namesOf (classifiers : List Classifier) : (namesOf classifiers).Nodup := by
  rw [namesOf_eq_addNames]
  exact nodup_addNames List.nodup_nil _

/-- The attributes that names denote have these names. -/
theorem mapM_resolve {h : Hierarchy} {id : String} {names : List String}
    (hr : ∀ name ∈ names, ∃ r, h.resolve id name = .ok r) :
    ∃ attrs, names.mapM (h.resolve id) = .ok attrs ∧ attrs.map (·.name) = names := by
  induction names with
  | nil => exact ⟨[], rfl, rfl⟩
  | cons name names ih =>
    rw [List.forall_mem_cons] at hr
    obtain ⟨r, hres⟩ := hr.1
    obtain ⟨attrs, hattrs, hnames⟩ := ih hr.2
    refine ⟨r :: attrs, ?_, ?_⟩
    · rw [List.mapM_cons, hres, hattrs]
      rfl
    · rw [List.map_cons, name_of_resolve hres, hnames]

theorem attributes_eq_ok {h : Hierarchy} {id : String} {c : Classifier} (hc : h.find? id = some c) :
    ∃ attrs, h.attributes id = .ok attrs ∧ attrs.map (·.name) = namesOf (h.ancestors id) := by
  have hres : ∀ name ∈ namesOf (h.ancestors id), ∃ r, h.resolve id name = .ok r := by
    intro name hname
    obtain ⟨d, hd, hdeclares⟩ := mem_namesOf_iff.1 hname
    rcases resolve_cases hc name with ⟨owner, a, -, -, -, hres⟩ | ⟨hnone, -⟩
    · exact ⟨_, hres⟩
    · exact absurd hdeclares (hnone d hd)
  obtain ⟨attrs, hattrs, hnames⟩ := mapM_resolve hres
  refine ⟨attrs, ?_, hnames⟩
  rw [attributes, get, hc, ok_bind, hattrs]

end Hierarchy

end TypedDocs
