import TypedDocs.Proofs.Hierarchy.Acceptance

/-!
# Inheritance

In a hierarchy that is made of a list, parents are followed to an end: the ancestors of a classifier
are all that following them on the list comes to, and no classifier is among them twice.  So
extension is an order, in which the classifiers above one of them stand in a row, and the three
lookups that take the nearest answer on a chain pass from a classifier to those that extend it.

    climb classifiers n id = (h.ancestors id)[n]?                           (climb_eq_getElem?)
    h.TreeOrder                                                             (treeOrder)
    h.isSubtype id ancestor → h.Inherits id ancestor lookup answers         (inherits_of_nearest)
-/

namespace TypedDocs.Hierarchy

open Classifier

variable {h : Hierarchy} {id ancestor : String} {classifiers : List Classifier} {c : Classifier}

/-! ## Definitions -/

/-- Extension is an order on the classifiers that there are, in which any two that one classifier
extends extend one another. -/
structure TreeOrder (h : Hierarchy) : Prop where
  refl : ∀ id c, h.find? id = some c → h.isSubtype id id = true
  trans : ∀ a b c, h.isSubtype a b = true → h.isSubtype b c = true → h.isSubtype a c = true
  antisymm : ∀ a b, h.isSubtype a b = true → h.isSubtype b a = true → a = b
  unknown : ∀ a b, h.find? a = none ∨ h.find? b = none → h.isSubtype a b = false
  comparable : ∀ id a b, h.isSubtype id a = true → h.isSubtype id b = true →
    h.isSubtype a b = true ∨ h.isSubtype b a = true

/-- A classifier on the chain of another one, strictly below an ancestor. -/
structure Below (h : Hierarchy) (id ancestor : String) (c : Classifier) : Prop where
  mem : c ∈ h.ancestors id
  sub : h.isSubtype c.id ancestor = true
  ne : c.id ≠ ancestor

/-- A lookup has a result for a classifier where it has one for an ancestor, and the same where no
classifier strictly below the ancestor gives an answer of its own. -/
structure Inherits {α : Type} (h : Hierarchy) (id ancestor : String)
    (lookup : String → Except Fault α) (answers : Classifier → Prop) : Prop where
  found : ∀ x, lookup ancestor = .ok x → ∃ y, lookup id = .ok y
  same : ∀ x, lookup ancestor = .ok x → (∀ c, h.Below id ancestor c → ¬ answers c) →
    lookup id = .ok x

/-! ## Chains that end -/

/-- The ancestors are what following parents on the list comes to, step by step. -/
theorem climb_eq_getElem? (ho : ofList classifiers = .ok h) (n : Nat) (id : String) :
    climb classifiers n id = (h.ancestors id)[n]? := by
  have hfind (id : String) : h.find? id = climb classifiers 0 id :=
    Registry.get?_eq_climb_zero (ofList_eq_ok_iff.1 ho) id
  induction n generalizing id with
  | zero =>
    cases hc : h.find? id with
    | none => rw [← hfind, hc, ancestors_eq_nil hc, List.getElem?_nil]
    | some c => rw [← hfind, hc, ancestors_eq_cons hc, List.getElem?_cons_zero]
  | succ n ih =>
    cases hc : h.find? id with
    | none =>
      rw [ancestors_eq_nil hc, List.getElem?_nil]
      exact climb_eq_none ((hfind id).symm.trans hc)
    | some c =>
      have hzero : climb classifiers 0 id = some c := (hfind id).symm.trans hc
      rw [ancestors_eq_cons hc, List.getElem?_cons_succ]
      cases hp : c.parent with
      | none => rw [climb_succ_of_root hzero hp, Option.map_none, Option.getD_none, List.getElem?_nil]
      | some parent => rw [climb_succ_of_parent hzero hp, ih, Option.map_some, Option.getD_some]

theorem nodup_ancestors (ho : ofList classifiers = .ok h) (id : String) :
    (h.ancestors id).Nodup := by
  rw [List.nodup_iff_getElem?_ne_getElem?]
  intro i j hij hj he
  have hlast : (h.ancestors id)[j]? = some ((h.ancestors id)[j]) := List.getElem?_eq_getElem hj
  have hi := (climb_eq_getElem? ho i id).trans (he.trans hlast)
  have hj := (climb_eq_getElem? ho j id).trans hlast
  have hsame : i = j := (wellFormed_of_ofList ho).acyclic id i j _ hi hj
  omega

theorem nodup_map_id_ancestors (ho : ofList classifiers = .ok h) (id : String) :
    ((h.ancestors id).map Classifier.id).Nodup := by
  refine (nodup_ancestors ho id).map_on fun c hc d hd he => ?_
  refine eq_of_mem_ancestors hc ?_
  rw [he]
  exact find?_of_mem_ancestors hd

theorem length_ancestors_le (ho : ofList classifiers = .ok h) (id : String) :
    (h.ancestors id).length ≤ h.size := by
  have hsub : h.ancestors id ⊆ h.toList := fun c hc => mem_toList_iff.2 (find?_of_mem_ancestors hc)
  have hle := (List.subperm_of_subset (nodup_ancestors ho id) hsub).length_le
  rwa [toList, List.length_map] at hle

/-! ## The order -/

theorem isSubtype_comparable {a b : String} (ha : h.isSubtype id a = true)
    (hb : h.isSubtype id b = true) : h.isSubtype a b = true ∨ h.isSubtype b a = true := by
  have hself {x y : String} (hx : h.isSubtype id x = true)
      (hs : h.ancestors x <:+ h.ancestors y) : h.isSubtype y x = true := by
    obtain ⟨c, hc⟩ := (find?_of_isSubtype hx).2
    exact isSubtype_iff.2 ⟨c, hs.subset (self_mem_ancestors hc), id_of_find? hc⟩
  rcases List.suffix_or_suffix_of_suffix (ancestors_suffix ha) (ancestors_suffix hb) with hs | hs
  · exact .inr (hself ha hs)
  · exact .inl (hself hb hs)

theorem treeOrder (h : Hierarchy) : h.TreeOrder where
  refl _ _ hc := isSubtype_refl hc
  trans _ _ _ hab hbc := isSubtype_trans hab hbc
  antisymm _ _ hab hba := isSubtype_antisymm hab hba
  unknown a b hnone := by
    by_contra hs
    obtain ⟨⟨c, hc⟩, d, hd⟩ := find?_of_isSubtype (eq_true_of_ne_false hs)
    rcases hnone with ha | hb
    · rw [ha] at hc
      cases hc
    · rw [hb] at hd
      cases hd
  comparable _ _ _ ha hb := isSubtype_comparable ha hb

/-! ## Lookups -/

/-- What stands on a chain before the chain of an ancestor is strictly below the ancestor. -/
theorem below_of_mem {nearer : List Classifier} (hs : h.isSubtype id ancestor = true)
    (hchain : nearer ++ h.ancestors ancestor = h.ancestors id) (hc : c ∈ nearer) :
    h.Below id ancestor c := by
  obtain ⟨front, back, rfl⟩ := List.append_of_mem hc
  have hrest : c :: (back ++ h.ancestors ancestor) <:+ h.ancestors id := ⟨front, by simpa using hchain⟩
  have hown := (find?_and_ancestors_of_suffix hrest).2
  refine ⟨hrest.subset List.mem_cons_self, ?_, ?_⟩
  · obtain ⟨d, hd⟩ := (find?_of_isSubtype hs).2
    refine isSubtype_iff.2 ⟨d, ?_, id_of_find? hd⟩
    rw [hown]
    exact List.mem_cons_of_mem c (List.mem_append_right back (self_mem_ancestors hd))
  · intro he
    rw [he] at hown
    have hlength := congrArg List.length hown
    simp only [List.length_cons, List.length_append] at hlength
    omega

/-- A lookup of the nearest answer on a chain is inherited. -/
theorem inherits_of_nearest {α : Type} {lookup : String → Except Fault α}
    {answer? : Classifier → Option α} {answers : Classifier → Prop}
    (hl : ∀ id x, lookup id = .ok x ↔ (h.ancestors id).findSome? answer? = some x)
    (ha : ∀ c, ¬ answers c → answer? c = none) (hs : h.isSubtype id ancestor = true) :
    h.Inherits id ancestor lookup answers where
  found x hx := by
    obtain ⟨y, hy⟩ := exists_findSome?_of_isSubtype hs ((hl ancestor x).1 hx)
    exact ⟨y, (hl id y).2 hy⟩
  same x hx hbelow := by
    obtain ⟨nearer, hchain⟩ := ancestors_suffix hs
    have hnone : nearer.findSome? answer? = none := by
      rw [List.findSome?_eq_none_iff]
      intro c hc
      exact ha c (hbelow c (below_of_mem hs hchain hc))
    rw [hl, ← hchain, List.findSome?_append, hnone, Option.none_or]
    exact (hl ancestor x).1 hx

theorem inherits_resolve (hs : h.isSubtype id ancestor = true) (name : String) :
    h.Inherits id ancestor (h.resolve · name) (fun c => c.Declares name) :=
  inherits_of_nearest (fun _ _ => resolve_eq_ok_iff) (fun _ => declared?_eq_none_iff.2) hs

theorem domain_eq_ok_iff {d : String} :
    h.domain id = .ok d ↔ (h.ancestors id).findSome? Classifier.domain = some d := by
  rw [domain]
  cases hf : h.find? id with
  | none => simp [get, hf, ancestors_eq_nil hf]
  | some c =>
    simp only [get, hf, ok_bind]
    cases (h.ancestors id).findSome? Classifier.domain <;> simp

theorem inherits_domain (hs : h.isSubtype id ancestor = true) :
    h.Inherits id ancestor h.domain (fun c => c.domain.isSome = true) :=
  inherits_of_nearest (fun _ _ => domain_eq_ok_iff) (fun c => by simp) hs

/-- The nearest class, as the nearest classifier that answers with its id. -/
theorem concreteClass_eq_ok_iff_findSome? {base : String} :
    h.concreteClass id = .ok base ↔
      (h.ancestors id).findSome? (fun c => if c.kind = .concrete then some c.id else none) =
        some base := by
  have hanswer : (fun c : Classifier => if c.kind = .concrete then some c.id else none) =
      Option.map Classifier.id ∘ Option.guard fun c => c.kind == .concrete := by
    funext c
    simp [Option.map_guard]
  rw [concreteClass_eq_ok_iff, List.find?_eq_findSome?_guard, hanswer, ← List.map_findSome?,
    Option.map_eq_some_iff]

theorem inherits_concreteClass (hs : h.isSubtype id ancestor = true) :
    h.Inherits id ancestor h.concreteClass (fun c => c.kind = .concrete) :=
  inherits_of_nearest (fun _ _ => concreteClass_eq_ok_iff_findSome?) (fun _ hc => if_neg hc) hs

/-! ## Main statement -/

/-- In a hierarchy that is made of a list, following parents on the list ends after at most as many
classifiers as there are, none of which comes twice; extension is a tree order; and attributes,
domains and nearest classes are inherited along it. -/
theorem inheritance_of_ofList (ho : ofList classifiers = .ok h) :
    (∀ id, (∀ n, climb classifiers n id = (h.ancestors id)[n]?) ∧
      (h.ancestors id).length ≤ h.size ∧ ((h.ancestors id).map Classifier.id).Nodup) ∧
    h.TreeOrder ∧
    ∀ id ancestor, h.isSubtype id ancestor = true →
      (∀ name, h.Inherits id ancestor (h.resolve · name) (fun c => c.Declares name)) ∧
      h.Inherits id ancestor h.domain (fun c => c.domain.isSome = true) ∧
      h.Inherits id ancestor h.concreteClass (fun c => c.kind = .concrete) := by
  refine ⟨fun id => ⟨?walk, length_ancestors_le ho id, nodup_map_id_ancestors ho id⟩, treeOrder h,
    fun id ancestor hs => ⟨inherits_resolve hs, inherits_domain hs, inherits_concreteClass hs⟩⟩
  case walk => exact fun n => climb_eq_getElem? ho n id

/-- An estimate has the labels of its task, which it does not declare, and a name of its own; the
chain of its parents ends with the third classifier. -/
theorem inheritance_of_tasks :
    ofList tasks.toList = .ok tasks ∧ climb tasks.toList 3 "Estimate" = none ∧
      (∃ r, tasks.resolve "Estimate" "name" = .ok r) ∧
      tasks.resolve "Estimate" "labels" = tasks.resolve "Task" "labels" ∧
      tasks.domain "Estimate" = .ok "model" := by
  have hl := ofList_toList tasks
  obtain ⟨walk, order, inherits⟩ := inheritance_of_ofList hl
  have htask : tasks.isSubtype "Estimate" "Task" = true := by decide
  have hdoc : tasks.isSubtype "Estimate" "Doc" = true := order.trans _ _ _ htask (by decide)
  obtain ⟨attributes, -, -⟩ := inherits _ _ htask
  obtain ⟨-, domains, -⟩ := inherits _ _ hdoc
  have hend : climb tasks.toList 3 "Estimate" = none := (walk "Estimate").1 3
  have hbetween : ∀ c ∈ tasks.ancestors "Estimate", c.id ≠ "Task" →
      tasks.isSubtype c.id "Task" = true → ∀ a ∈ c.attributes, a.name ≠ "labels" := by decide
  have hnone : ∀ c ∈ tasks.ancestors "Estimate", c.id ≠ "Doc" → c.domain.isSome = false := by
    decide
  refine ⟨hl, hend, (attributes "name").found _ rfl, ?labels, ?model⟩
  case labels =>
    refine (attributes "labels").same _ rfl fun c hc => ?_
    rintro ⟨a, ha, hn⟩
    exact hbetween c hc.mem hc.ne hc.sub a ha hn
  case model =>
    refine domains.same "model" rfl fun c hc => ?_
    rw [hnone c hc.mem hc.ne]
    exact Bool.false_ne_true

end TypedDocs.Hierarchy
