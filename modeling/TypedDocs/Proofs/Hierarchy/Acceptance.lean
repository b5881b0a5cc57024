import Mathlib.Data.List.Nodup
import Mathlib.Data.List.Perm.Subperm
import TypedDocs.Proofs.Hierarchy.Separation
import TypedDocs.Proofs.Value.Order

/-!
# Which lists make a hierarchy

A list of classifiers makes a hierarchy exactly when it is well-formed: its names may stand in
keys, no id and no name comes twice, every parent is on the list, and no chain of parents comes
back to a classifier.

    (∃ h, ofList classifiers = .ok h) ↔ WellFormed classifiers  (ofList_accepts_wellFormed)

The chains are followed here by `climb`, which any number of steps may be asked of, where the
check of a hierarchy stops after as many as there are classifiers.  A chain that is as long as
that comes to some classifier twice (`exists_revisit`), and one that does so never ends
(`isSome_climb_of_revisit`).
-/

namespace TypedDocs

/-! ## Well-formed lists -/

/-- A text with a character that is not blank and without the two characters that keys are put
together with. -/
structure Key.WellNamed (s : String) : Prop where
  visible : ∃ c ∈ s.toList, Text.isBlank c = false
  barless : '|' ∉ s.toList
  tildeless : '~' ∉ s.toList

theorem Key.isIdentifier_iff_wellNamed {s : String} :
    Key.isIdentifier s = true ↔ Key.WellNamed s := by
  have hvisible : Text.isBlankText s = false ↔ ∃ c ∈ s.toList, Text.isBlank c = false := by
    simp [Text.isBlankText]
  constructor
  · intro hs
    obtain ⟨hbar, htilde⟩ := Key.not_mem_of_isIdentifier hs
    simp only [Key.isIdentifier, Bool.and_eq_true, Bool.not_eq_true'] at hs
    exact ⟨hvisible.1 hs.1.1, hbar, htilde⟩
  · rintro ⟨hs, hbar, htilde⟩
    simp [Key.isIdentifier, hvisible.2 hs, Key.bar, Key.tilde, hbar, htilde]

namespace Classifier

/-- The classifier to which `n` parents lead from the one with an id, among those of a list. -/
def climb (classifiers : List Classifier) : Nat → String → Option Classifier
  | 0, id => classifiers.find? fun c => c.id == id
  | n + 1, id =>
    (classifiers.find? fun c => c.id == id).bind fun c => c.parent.bind (climb classifiers n)

/-- What a list of classifiers is to be, that a hierarchy can be made of it. -/
structure WellFormed (classifiers : List Classifier) : Prop where
  ids : ∀ c ∈ classifiers, Key.WellNamed c.id
  names : ∀ c ∈ classifiers, ∀ a ∈ c.attributes,
    Key.WellNamed a.name ∧ a.name.toList.head? ≠ some '_'
  distinctNames : ∀ c ∈ classifiers, (c.attributes.map Attribute.name).Nodup
  distinctIds : (classifiers.map Classifier.id).Nodup
  parents : ∀ c ∈ classifiers, ∀ parent, c.parent = some parent →
    ∃ p ∈ classifiers, p.id = parent
  acyclic : ∀ id i j c, climb classifiers i id = some c → climb classifiers j id = some c → i = j

/-! ## Names -/

theorem nameFault?_eq_none_iff_wellNamed {c : Classifier} :
    c.nameFault? = none ↔ Key.WellNamed c.id ∧
      (∀ a ∈ c.attributes, Key.WellNamed a.name ∧ a.name.toList.head? ≠ some '_') ∧
        (c.attributes.map Attribute.name).Nodup := by
  rw [nameFault?_eq_none_iff]
  simp only [Key.isIdentifier_iff_wellNamed, Key.isInternal, Key.internalMark, beq_eq_false_iff_ne]

/-! ## Chains -/

variable {classifiers : List Classifier} {id : String} {c : Classifier} {i j m n : Nat}

theorem mem_of_climb (hc : climb classifiers n id = some c) : c ∈ classifiers := by
  induction n generalizing id with
  | zero => exact List.mem_of_find?_eq_some hc
  | succ n ih =>
    obtain ⟨d, -, hd⟩ := Option.bind_eq_some_iff.1 hc
    obtain ⟨parent, -, hp⟩ := Option.bind_eq_some_iff.1 hd
    exact ih hp

theorem id_of_climb_zero (hc : climb classifiers 0 id = some c) : c.id = id := by
  simpa using List.find?_some hc

theorem climb_zero_eq_none_iff : climb classifiers 0 id = none ↔ ∀ c ∈ classifiers, c.id ≠ id := by
  simp [climb]

theorem climb_succ : climb classifiers (n + 1) id =
    (climb classifiers 0 id).bind fun c => c.parent.bind (climb classifiers n) := rfl

theorem climb_eq_none (hc : climb classifiers 0 id = none) : climb classifiers n id = none := by
  cases n with
  | zero => exact hc
  | succ n => rw [climb_succ, hc, Option.bind_none]

theorem climb_succ_of_parent {parent : String} (hc : climb classifiers 0 id = some c)
    (hp : c.parent = some parent) :
    climb classifiers (n + 1) id = climb classifiers n parent := by
  rw [climb_succ, hc, Option.bind_some, hp, Option.bind_some]

theorem climb_succ_of_root (hc : climb classifiers 0 id = some c) (hp : c.parent = none) :
    climb classifiers (n + 1) id = none := by
  rw [climb_succ, hc, Option.bind_some, hp, Option.bind_none]

/-- A chain goes on from each of its classifiers as the chain of that classifier does. -/
theorem climb_add (m n : Nat) (id : String) :
    climb classifiers (m + n) id =
      (climb classifiers m id).bind fun c => climb classifiers n c.id := by
  induction m generalizing id with
  | zero =>
    rw [Nat.zero_add]
    cases hc : climb classifiers 0 id with
    | none => rw [climb_eq_none hc, Option.bind_none]
    | some c => rw [Option.bind_some, id_of_climb_zero hc]
  | succ m ih =>
    rw [Nat.succ_add]
    cases hc : climb classifiers 0 id with
    | none => rw [climb_eq_none hc, climb_eq_none hc, Option.bind_none]
    | some c =>
      cases hp : c.parent with
      | none => rw [climb_succ_of_root hc hp, climb_succ_of_root hc hp, Option.bind_none]
      | some parent => rw [climb_succ_of_parent hc hp, climb_succ_of_parent hc hp, ih]

theorem climb_zero_of_climb (hc : climb classifiers n id = some c) :
    climb classifiers 0 c.id = some c := by
  have hself : climb classifiers (n + 0) id = _ := climb_add n 0 id
  rw [Nat.add_zero, hc, Option.bind_some] at hself
  exact hself.symm

theorem isSome_climb_of_le (hm : (climb classifiers m id).isSome = true) (hn : n ≤ m) :
    (climb classifiers n id).isSome = true := by
  obtain ⟨k, rfl⟩ := Nat.exists_eq_add_of_le hn
  rw [climb_add] at hm
  exact Option.isSome_of_isSome_bind hm

/-- A chain that comes back to a classifier never ends: what lies between the two visits can be
left out of any number of steps. -/
theorem isSome_climb_of_revisit (hi : climb classifiers i id = some c)
    (hj : climb classifiers j id = some c) (hij : i < j) (n : Nat) :
    (climb classifiers n id).isSome = true := by
  induction n using Nat.strongRecOn with
  | _ n ih =>
    rcases Nat.le_total n j with hn | hn
    · exact isSome_climb_of_le (by rw [hj]; rfl) hn
    · have hshort : climb classifiers n id = climb classifiers (n - (j - i)) id := by
        calc climb classifiers n id
            = climb classifiers (j + (n - j)) id := by rw [Nat.add_sub_cancel' hn]
          _ = climb classifiers (i + (n - j)) id := by rw [climb_add, climb_add, hi, hj]
          _ = climb classifiers (n - (j - i)) id := by congr 1; omega
      rw [hshort]
      exact ih _ (by omega)

/-- A chain with more classifiers than there are comes to one of them twice. -/
theorem exists_revisit (hlong : (climb classifiers classifiers.length id).isSome = true) :
    ∃ i j c, i < j ∧ climb classifiers i id = some c ∧ climb classifiers j id = some c := by
  by_contra hnone
  let visits := (List.range (classifiers.length + 1)).map fun n => climb classifiers n id
  have hsome : ∀ n < classifiers.length + 1, ∃ c, climb classifiers n id = some c := by
    intro n hn
    exact Option.isSome_iff_exists.1 (isSome_climb_of_le hlong (Nat.le_of_lt_succ hn))
  have hnodup : visits.Nodup := by
    refine List.Nodup.map_on (fun i hi j hj he => ?_) List.nodup_range
    obtain ⟨c, hc⟩ := hsome i (List.mem_range.1 hi)
    rcases Nat.lt_trichotomy i j with hlt | rfl | hlt
    · exact absurd ⟨i, j, c, hlt, hc, he ▸ hc⟩ hnone
    · rfl
    · exact absurd ⟨j, i, c, hlt, he ▸ hc, hc⟩ hnone
  have hsub : visits ⊆ classifiers.map some := by
    intro visit hv
    obtain ⟨n, hn, rfl⟩ := List.mem_map.1 hv
    obtain ⟨c, hc⟩ := hsome n (List.mem_range.1 hn)
    simp only [hc]
    exact List.mem_map_of_mem (mem_of_climb hc)
  have hlength := (List.subperm_of_subset hnodup hsub).length_le
  rw [List.length_map, List.length_map, List.length_range] at hlength
  exact absurd hlength (Nat.not_succ_le_self _)

/-- A chain that ends comes to no classifier twice. -/
theorem eq_of_climb_of_root {root : Classifier} (hm : climb classifiers m id = some root)
    (hp : root.parent = none) (hi : climb classifiers i id = some c)
    (hj : climb classifiers j id = some c) : i = j := by
  have hend : climb classifiers (m + 1) id = none := by
    rw [climb_add, hm, Option.bind_some, climb_succ_of_root (climb_zero_of_climb hm) hp]
  have hnot {i j : Nat} (hi : climb classifiers i id = some c)
      (hj : climb classifiers j id = some c) : ¬i < j := by
    intro hlt
    have hon := isSome_climb_of_revisit hi hj hlt (m + 1)
    rw [hend] at hon
    cases hon
  have hij := hnot hi hj
  have hji := hnot hj hi
  omega

end Classifier

/-! ## The check of a chain -/

/-- What following the chain of a classifier for `n` steps comes to, and the fault that this is:
none where the chain ends. -/
inductive Classifier.Pursuit (classifiers : List Classifier) (start : String) (n : Nat)
    (id : String) : Option Fault → Prop where
  | ends (m : Nat) (root : Classifier) : climb classifiers m id = some root → root.parent = none →
      Pursuit classifiers start n id none
  | lasts : (climb classifiers n id).isSome = true →
      Pursuit classifiers start n id (some (.cyclicInheritance start))
  | breaks {parent : String} (d : Classifier) : d ∈ classifiers → d.parent = some parent →
      (∀ c ∈ classifiers, c.id ≠ parent) →
      Pursuit classifiers start n id (some (.notFound parent))

theorem Classifier.Pursuit.cons {classifiers : List Classifier} {start parent : String} {n : Nat}
    {c : Classifier} {fault : Option Fault} (hs : Pursuit classifiers start n parent fault)
    (hc : climb classifiers 0 c.id = some c) (hp : c.parent = some parent) :
    Pursuit classifiers start (n + 1) c.id fault := by
  cases hs with
  | ends m root hm hroot =>
    exact .ends (m + 1) root (by rw [climb_succ_of_parent hc hp, hm]) hroot
  | lasts hlong => exact .lasts (by rw [climb_succ_of_parent hc hp, hlong])
  | breaks d hd hparent hmissing => exact .breaks d hd hparent hmissing

/-- Whether a fault is met on a chain of parents, not at a name or an id. -/
def Fault.isOfChain : Fault → Bool
  | .cyclicInheritance _ | .notFound _ => true
  | _ => false

namespace Classifier

theorem isOfChain_of_attributeFault? {classId : String} {seen : List String}
    {attrs : List Attribute} {fault : Fault}
    (hf : attributeFault? classId seen attrs = some fault) : fault.isOfChain = false := by
  induction attrs generalizing seen with
  | nil => cases hf
  | cons a rest ih =>
    rw [attributeFault?] at hf
    split at hf
    · cases hf
      rfl
    · split at hf
      · cases hf
        rfl
      · exact ih hf

theorem isOfChain_of_nameFault? {c : Classifier} {fault : Fault} (hf : c.nameFault? = some fault) :
    fault.isOfChain = false := by
  rw [nameFault?] at hf
  split at hf
  · cases hf
    rfl
  · exact isOfChain_of_attributeFault? hf

end Classifier

namespace Registry

open Classifier

variable {classifiers : List Classifier} {r : Registry}

theorem get?_eq_climb_zero (hr : ofList classifiers = .ok r) (id : String) :
    r.classifiers.get? id = climb classifiers 0 id := by
  rw [get?_of_ofList hr, climb]
  clear hr
  induction classifiers with
  | nil => rfl
  | cons c rest ih =>
    rw [List.map_cons, Keyed.get?, List.find?_cons, ih]
    by_cases hc : c.id = id
    · simp [hc]
    · rw [if_neg hc, beq_eq_false_iff_ne.2 hc]

theorem perm_of_ofList (hr : ofList classifiers = .ok r) :
    r.classifiers.Perm (classifiers.map fun c => (c.id, c)) := by
  obtain ⟨-, hids, hentries⟩ := ofList_eq_ok_iff.1 hr
  rw [hentries]
  exact Keyed.perm_ofEntries (nodup_keys hids)

/-- Following a chain for `n` steps comes to the end that the answer is for. -/
theorem pursuit_chainFault? (hr : ofList classifiers = .ok r) (start : String) (n : Nat)
    {c : Classifier} (hc : climb classifiers 0 c.id = some c) :
    Pursuit classifiers start n c.id (r.chainFault? start n c) := by
  induction n generalizing c with
  | zero => exact .lasts (by rw [hc]; rfl)
  | succ n ih =>
    rw [chainFault?]
    cases hp : c.parent with
    | none => exact .ends 0 c hc hp
    | some parent =>
      simp only [get?_eq_climb_zero hr]
      cases hq : climb classifiers 0 parent with
      | none => exact .breaks c (mem_of_climb hc) hp (climb_zero_eq_none_iff.1 hq)
      | some q =>
        obtain rfl : q.id = parent := id_of_climb_zero hq
        exact (ih hq).cons hc hp

theorem isOfChain_of_ofList_eq_error {fault : Fault} (he : ofList classifiers = .error fault) :
    fault.isOfChain = false := by
  rcases foldlM_add_eq_error he with ⟨c, -, hn⟩ | ⟨c, -, rfl⟩
  · exact isOfChain_of_nameFault? hn
  · rfl

end Registry

/-! ## Acceptance -/

namespace Hierarchy

open Classifier

variable {classifiers other : List Classifier} {h : Hierarchy} {fault : Fault}

theorem toList_perm_of_ofList (ho : ofList classifiers = .ok h) : h.toList.Perm classifiers := by
  have hperm := (Registry.perm_of_ofList (ofList_eq_ok_iff.1 ho)).map Prod.snd
  rwa [List.map_map, List.map_id''] at hperm
  exact fun c => rfl

theorem ofList_of_perm (ho : ofList classifiers = .ok h) (hp : other.Perm classifiers) :
    ofList other = .ok h := by
  obtain ⟨hnames, hids, hentries⟩ := Registry.ofList_eq_ok_iff.1 (ofList_eq_ok_iff.1 ho)
  rw [ofList_eq_ok_iff, Registry.ofList_eq_ok_iff]
  refine ⟨fun c hc => hnames c (hp.mem_iff.1 hc), (hp.map _).nodup_iff.2 hids, ?_⟩
  rw [hentries]
  exact Keyed.ofEntries_of_perm (Registry.nodup_keys hids) (hp.symm.map _)

theorem pursuit_of_error (he : ofList classifiers = .error fault) :
    Registry.ofList classifiers = .error fault ∨
      ∃ id, Pursuit classifiers id classifiers.length id (some fault) := by
  rcases ofList_eq_error he with hreg | ⟨r, hr, c, hc, hf⟩
  · exact .inl hreg
  · rw [Registry.get?_eq_climb_zero hr] at hc
    have hpursuit := Registry.pursuit_chainFault? hr c.id classifiers.length hc
    rw [(Registry.perm_of_ofList hr).length_eq, List.length_map] at hf
    rw [hf] at hpursuit
    exact .inr ⟨c.id, hpursuit⟩

/-- A fault of a chain is met on the chain of some classifier. -/
theorem exists_pursuit (he : ofList classifiers = .error fault) (hchain : fault.isOfChain = true) :
    ∃ id, Pursuit classifiers id classifiers.length id (some fault) := by
  rcases pursuit_of_error he with hreg | hpursuit
  · rw [Registry.isOfChain_of_ofList_eq_error hreg] at hchain
    cases hchain
  · exact hpursuit

theorem wellFormed_of_ofList (ho : ofList classifiers = .ok h) : WellFormed classifiers := by
  have hr := ofList_eq_ok_iff.1 ho
  obtain ⟨hnames, hids, -⟩ := Registry.ofList_eq_ok_iff.1 hr
  have hname (c : Classifier) (hc : c ∈ classifiers) :=
    nameFault?_eq_none_iff_wellNamed.1 (hnames c hc)
  refine
    { ids := fun c hc => (hname c hc).1
      names := fun c hc => (hname c hc).2.1
      distinctNames := fun c hc => (hname c hc).2.2
      distinctIds := hids
      parents := ?parents
      acyclic := ?acyclic }
  case parents =>
    intro c hc parent hp
    obtain ⟨p, hfind⟩ := find?_parent (mem_toList_iff.1 ((mem_toList_of_ofList ho).2 hc)) hp
    obtain rfl : p.id = parent := id_of_find? hfind
    exact ⟨p, (mem_toList_of_ofList ho).1 (mem_toList_iff.2 hfind), rfl⟩
  case acyclic =>
    intro id i j c hi hj
    obtain ⟨d, hd⟩ : ∃ d, climb classifiers 0 id = some d :=
      Option.isSome_iff_exists.1 (isSome_climb_of_le (by rw [hi]; rfl) (Nat.zero_le i))
    obtain rfl : d.id = id := id_of_climb_zero hd
    have hfind : h.find? d.id = some d := by
      rw [find?, Registry.get?_eq_climb_zero hr, hd]
    have hpursuit := Registry.pursuit_chainFault? hr d.id h.size hd
    rw [chainFault?_eq_none hfind] at hpursuit
    cases hpursuit with
    | ends m root hm hroot => exact eq_of_climb_of_root hm hroot hi hj

theorem exists_ofList (hw : WellFormed classifiers) : ∃ h, ofList classifiers = .ok h := by
  have hnames : ∀ c ∈ classifiers, c.nameFault? = none := fun c hc =>
    nameFault?_eq_none_iff_wellNamed.2 ⟨hw.ids c hc, hw.names c hc, hw.distinctNames c hc⟩
  obtain ⟨r, hr⟩ := Registry.exists_ofList hnames hw.distinctIds
  cases ho : ofList classifiers with
  | ok h => exact ⟨h, rfl⟩
  | error fault =>
    exfalso
    rcases pursuit_of_error ho with hreg | ⟨id, hpursuit⟩
    · rw [hr] at hreg
      cases hreg
    · cases hpursuit with
      | lasts hlong =>
        obtain ⟨i, j, d, hlt, hi, hj⟩ := exists_revisit hlong
        exact Nat.ne_of_lt hlt (hw.acyclic _ i j d hi hj)
      | breaks d hd hparent hmissing =>
        obtain ⟨p, hp, hid⟩ := hw.parents d hd _ hparent
        exact hmissing p hp hid

theorem isSome_climb_of_cyclicInheritance {id : String}
    (he : ofList classifiers = .error (.cyclicInheritance id)) (n : Nat) :
    (climb classifiers n id).isSome = true := by
  obtain ⟨start, hpursuit⟩ := exists_pursuit he rfl
  cases hpursuit with
  | lasts hlong =>
    obtain ⟨i, j, d, hlt, hi, hj⟩ := exists_revisit hlong
    exact isSome_climb_of_revisit hi hj hlt n

theorem parent_of_notFound {parent : String}
    (he : ofList classifiers = .error (.notFound parent)) :
    (∃ c ∈ classifiers, c.parent = some parent) ∧ ∀ c ∈ classifiers, c.id ≠ parent := by
  obtain ⟨start, hpursuit⟩ := exists_pursuit he rfl
  cases hpursuit with
  | breaks d hd hparent hmissing => exact ⟨⟨d, hd, hparent⟩, hmissing⟩

/-- The well-formed lists are those of which a hierarchy is made.  It holds the classifiers of
the list, in whatever order they are given.  A fault of a chain tells the truth: the chain of the
classifier that it names never ends, or the parent that it names is missing. -/
theorem ofList_accepts_wellFormed (classifiers : List Classifier) :
    ((∃ h, ofList classifiers = .ok h) ↔ WellFormed classifiers) ∧
      (∀ h, ofList classifiers = .ok h → h.toList.Perm classifiers ∧
        ∀ other, other.Perm classifiers → ofList other = .ok h) ∧
      (∀ id, ofList classifiers = .error (.cyclicInheritance id) →
        ∀ n, (climb classifiers n id).isSome = true) ∧
      ∀ parent, ofList classifiers = .error (.notFound parent) →
        (∃ c ∈ classifiers, c.parent = some parent) ∧ ∀ c ∈ classifiers, c.id ≠ parent := by
  refine ⟨⟨?sound, exists_ofList⟩, ?held, ?cyclic, ?missing⟩
  case sound =>
    rintro ⟨h, ho⟩
    exact wellFormed_of_ofList ho
  case held => exact fun h ho => ⟨toList_perm_of_ofList ho, fun other hp => ofList_of_perm ho hp⟩
  case cyclic => exact fun id he n => isSome_climb_of_cyclicInheritance he n
  case missing => exact fun parent he => parent_of_notFound he

/-- A class below two that extend each other is no part of the cycle, but its chain does not
end either. -/
theorem ofList_accepts_wellFormed_tasks :
    WellFormed tasks.toList ∧ ofList tasks.toList.reverse = .ok tasks ∧
      (∀ n, (climb
        [⟨"Left", .concrete, some "Right", none, []⟩, ⟨"Right", .concrete, some "Left", none, []⟩,
          ⟨"Below", .concrete, some "Left", none, []⟩] n "Below").isSome = true) ∧
      ∃ c : Classifier, c ∈ [⟨"Below", .concrete, some "Above", none, []⟩] ∧
        c.parent = some "Above" ∧ c.id ≠ "Above" := by
  have hl := ofList_toList tasks
  obtain ⟨hiff, hheld, -⟩ := ofList_accepts_wellFormed tasks.toList
  refine ⟨hiff.1 ⟨tasks, hl⟩, (hheld tasks hl).2 _ (List.reverse_perm _), ?cyclic, ?missing⟩
  case cyclic => exact (ofList_accepts_wellFormed _).2.2.1 "Below" rfl
  case missing =>
    obtain ⟨⟨c, hc, hp⟩, hnot⟩ := (ofList_accepts_wellFormed
      [⟨"Below", .concrete, some "Above", none, []⟩]).2.2.2 "Above" rfl
    exact ⟨c, hc, hp, hnot c hc⟩

end Hierarchy

end TypedDocs
