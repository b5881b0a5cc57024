import TypedDocs.Hierarchy.Basic

/-!
# Chains of parents

Following parents is a recursion on the classifiers of a hierarchy, although it is written with
a number of steps: every chain ends before the steps do.

    h.find? id = some c → h.ancestors id = c :: ancestors of the parent     (ancestors_eq_cons)
    h.isSubtype a b → h.ancestors b <:+ h.ancestors a                       (ancestors_suffix)

With the second one `isSubtype` is an order on the classifiers that there are.
-/

namespace TypedDocs.Hierarchy

variable {h : Hierarchy} {id : String} {c : Classifier}

/-! ## Classifiers under their ids -/

theorem find?_mem (hc : h.find? id = some c) : (id, c) ∈ h.classifiers := Keyed.mem_of_get? hc

theorem id_of_find? (hc : h.find? id = some c) : c.id = id := (h.named _ (find?_mem hc)).1.symm

theorem nameFault?_of_find? (hc : h.find? id = some c) : c.nameFault? = none :=
  (h.named _ (find?_mem hc)).2

theorem get_eq_ok_iff : h.get id = .ok c ↔ h.find? id = some c := by
  rw [get]
  cases h.find? id <;> simp

/-! ## The number of steps -/

theorem chainFault?_eq_none (hc : h.find? id = some c) :
    h.chainFault? id h.size c = none :=
  h.grounded _ (find?_mem hc)

/-- A chain that ends within `n` steps is the same however many more are allowed. -/
theorem chainFrom_eq_of_le {start : String} {n m : Nat} (hc : h.chainFault? start n c = none)
    (hm : n ≤ m) : h.chainFrom m c = h.chainFrom n c := by
  induction n generalizing m c with
  | zero => cases hc
  | succ n ih =>
    obtain ⟨m, rfl⟩ : ∃ k, m = k + 1 := ⟨m - 1, by omega⟩
    rw [Registry.chainFault?] at hc
    rw [chainFrom, chainFrom]
    cases hp : c.parent with
    | none => rfl
    | some parent =>
      rw [hp] at hc
      have hfind : h.find? parent = h.classifiers.get? parent := rfl
      simp only [Option.bind_some, hfind]
      cases hq : h.classifiers.get? parent with
      | none => rfl
      | some q =>
        simp only [hq] at hc
        rw [Option.map_some, Option.map_some, ih hc (Nat.le_of_succ_le_succ hm)]

/-- The parent of a classifier is one of the hierarchy. -/
theorem find?_parent (hc : h.find? id = some c) {parent : String} (hp : c.parent = some parent) :
    ∃ q, h.find? parent = some q := by
  have hg := chainFault?_eq_none hc
  cases hs : h.size with
  | zero =>
    rw [hs] at hg
    cases hg
  | succ n =>
    simp only [hs, Registry.chainFault?, hp] at hg
    cases hq : h.classifiers.get? parent with
    | none =>
      rw [hq] at hg
      cases hg
    | some q => exact ⟨q, hq⟩

/-! ## Ancestors -/

theorem ancestors_eq_nil (hc : h.find? id = none) : h.ancestors id = [] := by
  rw [ancestors, hc]
  rfl

theorem ancestors_eq_cons (hc : h.find? id = some c) :
    h.ancestors id = c :: (c.parent.map h.ancestors).getD [] := by
  have hg := chainFault?_eq_none hc
  cases hs : h.size with
  | zero =>
    rw [hs] at hg
    cases hg
  | succ n =>
    rw [hs, Registry.chainFault?] at hg
    simp only [ancestors, hc, Option.map_some, Option.getD_some, hs, chainFrom]
    cases hp : c.parent with
    | none => rfl
    | some parent =>
      obtain ⟨q, hq⟩ := find?_parent hc hp
      have hq' : h.classifiers.get? parent = some q := hq
      simp only [hp, hq'] at hg
      have hparent : h.ancestors parent = h.chainFrom n q := by
        rw [ancestors, hq, Option.map_some, Option.getD_some, hs]
        exact chainFrom_eq_of_le hg (Nat.le_succ n)
      rw [Option.bind_some, hq, Option.map_some, Option.getD_some, Option.map_some,
        Option.getD_some, hparent]

/-- What is left of a chain from one of its classifiers on is the chain of that classifier. -/
theorem find?_and_ancestors_of_suffix {rest : List Classifier}
    (hs : c :: rest <:+ h.ancestors id) :
    h.find? c.id = some c ∧ h.ancestors c.id = c :: rest := by
  induction hn : (h.ancestors id).length using Nat.strongRecOn generalizing id with
  | _ n ih =>
    cases hf : h.find? id with
    | none => simp [ancestors_eq_nil hf] at hs
    | some d =>
      have hd := ancestors_eq_cons hf
      rw [hd] at hs hn
      rcases List.suffix_cons_iff.1 hs with he | htail
      · cases he
        rw [id_of_find? hf]
        exact ⟨hf, hd⟩
      · cases hp : d.parent with
        | none => simp [hp] at htail
        | some parent =>
          simp only [hp, Option.map_some, Option.getD_some] at htail hn
          exact ih _ (by rw [← hn]; simp) htail rfl

theorem find?_of_mem_ancestors (hc : c ∈ h.ancestors id) : h.find? c.id = some c := by
  obtain ⟨before, after, he⟩ := List.append_of_mem hc
  exact (find?_and_ancestors_of_suffix ⟨before, he.symm⟩).1

theorem eq_of_mem_ancestors {d : Classifier} (hc : c ∈ h.ancestors id)
    (hd : h.find? c.id = some d) : c = d :=
  Option.some.inj ((find?_of_mem_ancestors hc).symm.trans hd)

theorem ancestors_suffix_of_mem (hc : c ∈ h.ancestors id) :
    h.ancestors c.id <:+ h.ancestors id := by
  obtain ⟨before, after, he⟩ := List.append_of_mem hc
  have hs : c :: after <:+ h.ancestors id := ⟨before, he.symm⟩
  rw [(find?_and_ancestors_of_suffix hs).2]
  exact hs

theorem self_mem_ancestors (hc : h.find? id = some c) : c ∈ h.ancestors id := by
  rw [ancestors_eq_cons hc]
  exact List.mem_cons_self

/-! ## The order of classifiers -/

theorem isSubtype_iff {a b : String} :
    h.isSubtype a b = true ↔ ∃ c ∈ h.ancestors a, c.id = b := by
  simp [isSubtype]

theorem isSubtype_refl (hc : h.find? id = some c) : h.isSubtype id id = true :=
  isSubtype_iff.2 ⟨c, self_mem_ancestors hc, id_of_find? hc⟩

theorem ancestors_suffix {a b : String} (hab : h.isSubtype a b = true) :
    h.ancestors b <:+ h.ancestors a := by
  obtain ⟨c, hc, rfl⟩ := isSubtype_iff.1 hab
  exact ancestors_suffix_of_mem hc

theorem isSubtype_trans {a b d : String} (hab : h.isSubtype a b = true)
    (hbd : h.isSubtype b d = true) : h.isSubtype a d = true := by
  obtain ⟨c, hc, hd⟩ := isSubtype_iff.1 hbd
  exact isSubtype_iff.2 ⟨c, (ancestors_suffix hab).subset hc, hd⟩

theorem find?_of_isSubtype {a b : String} (hab : h.isSubtype a b = true) :
    (∃ c, h.find? a = some c) ∧ ∃ c, h.find? b = some c := by
  obtain ⟨c, hc, rfl⟩ := isSubtype_iff.1 hab
  refine ⟨?_, c, find?_of_mem_ancestors hc⟩
  cases ha : h.find? a with
  | none => simp [ancestors_eq_nil ha] at hc
  | some d => exact ⟨d, rfl⟩

theorem isSubtype_eq_false (hc : h.find? id = none) (other : String) :
    h.isSubtype id other = false := by
  rw [isSubtype, ancestors_eq_nil hc]
  rfl

theorem isSubtype_antisymm {a b : String} (hab : h.isSubtype a b = true)
    (hba : h.isSubtype b a = true) : a = b := by
  obtain ⟨⟨c, hc⟩, d, hd⟩ := find?_of_isSubtype hab
  have he : h.ancestors b = h.ancestors a :=
    (ancestors_suffix hab).eq_of_length_le (ancestors_suffix hba).length_le
  rw [ancestors_eq_cons hc, ancestors_eq_cons hd] at he
  rw [← id_of_find? hc, ← id_of_find? hd, (List.cons.inj he).1]

/-- What is found on the chain of a classifier, something is found for on the chains of those that
extend it. -/
theorem exists_findSome?_of_isSubtype {α : Type} {f : Classifier → Option α} {a b : String} {x : α}
    (hab : h.isSubtype a b = true) (hx : (h.ancestors b).findSome? f = some x) :
    ∃ y, (h.ancestors a).findSome? f = some y := by
  obtain ⟨nearer, hchain⟩ := ancestors_suffix hab
  rw [← hchain, List.findSome?_append, hx]
  cases nearer.findSome? f with
  | none => exact ⟨x, rfl⟩
  | some y => exact ⟨y, rfl⟩

/-! ## Concrete classes -/

theorem concreteClass_eq_ok_iff {base : String} :
    h.concreteClass id = .ok base ↔
      ∃ c, (h.ancestors id).find? (fun c => c.kind == .concrete) = some c ∧ c.id = base := by
  rw [concreteClass]
  cases hf : h.find? id with
  | none => simp [get, hf, ancestors_eq_nil hf]
  | some c =>
    simp only [get, hf, ok_bind]
    cases (h.ancestors id).find? fun c => c.kind == .concrete <;> simp

theorem isSubtype_concreteClass {base : String} (hb : h.concreteClass id = .ok base) :
    h.isSubtype id base = true := by
  obtain ⟨c, hc, he⟩ := concreteClass_eq_ok_iff.1 hb
  exact isSubtype_iff.2 ⟨c, List.mem_of_find?_eq_some hc, he⟩

theorem find?_concreteClass {base : String} (hb : h.concreteClass id = .ok base) :
    ∃ c, h.find? base = some c ∧ c.kind = .concrete := by
  obtain ⟨c, hc, rfl⟩ := concreteClass_eq_ok_iff.1 hb
  exact ⟨c, find?_of_mem_ancestors (List.mem_of_find?_eq_some hc),
    by simpa using List.find?_some hc⟩

/-- The concrete class extends every class on the chain. -/
theorem isSubtype_of_concreteClass {base : String} (hb : h.concreteClass id = .ok base)
    (hc : c ∈ h.ancestors id) (hk : c.kind = .concrete) : h.isSubtype base c.id = true := by
  obtain ⟨b, hfind, rfl⟩ := concreteClass_eq_ok_iff.1 hb
  obtain ⟨-, before, after, hl, hnone⟩ := List.find?_eq_some_iff_append.1 hfind
  have hs : b :: after <:+ h.ancestors id := ⟨before, hl.symm⟩
  refine isSubtype_iff.2 ⟨c, ?_, rfl⟩
  rw [(find?_and_ancestors_of_suffix hs).2]
  rw [hl] at hc
  rcases List.mem_append.1 hc with hbefore | hafter
  · have := hnone c hbefore
    simp [hk] at this
  · exact hafter

/-- A class is its own concrete class. -/
theorem concreteClass_self (hc : h.find? id = some c) (hk : c.kind = .concrete) :
    h.concreteClass id = .ok id := by
  refine concreteClass_eq_ok_iff.2 ⟨c, ?_, id_of_find? hc⟩
  rw [ancestors_eq_cons hc, List.find?_cons, hk]
  rfl

theorem isMixin_eq_true_iff : h.isMixin id = true ↔ ∃ c, h.find? id = some c ∧ c.kind = .mixin := by
  rw [isMixin]
  cases h.find? id <;> simp [Classifier.isMixin]

theorem kind_of_isMixin_eq_false (hm : h.isMixin id = false) (hc : h.find? id = some c) :
    c.kind = .concrete := by
  cases hk : c.kind with
  | concrete => rfl
  | mixin => simp [isMixin_eq_true_iff.2 ⟨c, hc, hk⟩] at hm

end TypedDocs.Hierarchy
