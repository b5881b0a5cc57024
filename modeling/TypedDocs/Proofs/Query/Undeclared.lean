import TypedDocs.Pattern.Basic
import TypedDocs.Proofs.Query.Faults
import TypedDocs.Proofs.View.Declarations

/-!
# Keys that no class declares

A key that the class of an embedded object does not have is a miss, so that comparing values fails
by a class that is not in the hierarchy or by a search pattern that is none, and never by a key.  A
query of a layout does fail by one of its own keys, namely the least that does not match when it is
not declared where it is looked up.

    matchValue h full declared value query = .error fault → Obstructs h fault
    query.Sorted → (matchFields h full classId layout query = .error (.attributeNotFound c name) ↔
      ∃ key wanted, (key, wanted) ∈ query ∧ … ∧ key.Asks classId c name ∧ Undeclared h c name ∧
        every entry with a smaller key matches)                                   (undeclared_keys)
-/

namespace TypedDocs

/-! ## Definitions -/

/-- A key asks a classifier for a name: one that names a mixin asks the mixin, any other the
classifier it is read for. -/
inductive Key.Asks (classId key : String) : String → String → Prop where
  | plain (hp : Key.parse key = .plain key) : Asks classId key classId key
  | qualified {name mixin : String} (hp : Key.parse key = .qualified name mixin) :
    Asks classId key mixin name

/-- The classifier is in the hierarchy, and neither it nor one that it extends declares the name. -/
structure Hierarchy.Undeclared (h : Hierarchy) (classId name : String) : Prop where
  known : ∃ c, h.find? classId = some c
  undeclared : ∀ c ∈ h.ancestors classId, ¬c.Declares name

/-- What comparing values may fail by: a class that is not in the hierarchy, or a search pattern
that is none. -/
inductive Query.Obstructs {ρ : Type} [Pattern.Engine ρ] (h : Hierarchy) : Fault → Prop where
  | unknown {id : String} (hnone : h.find? id = none) : Obstructs h (.notFound id)
  | malformed {pattern options : String} {reason : PatternError}
    (hc : Pattern.compile pattern options = .error reason) :
    Obstructs h (.invalidPattern pattern reason)

/-! ## Keys -/

namespace Hierarchy

variable {h : Hierarchy} {classId key name c : String}

theorem resolveKey_of_asks (ha : Key.Asks classId key c name) :
    h.resolveKey classId key = h.resolve c name := by
  rw [resolveKey]
  cases ha with
  | plain hp => rw [hp]
  | qualified hp => rw [hp]

theorem exists_asks (classId key : String) : ∃ c name, Key.Asks classId key c name := by
  cases hp : Key.parse key with
  | plain name =>
    obtain rfl := Key.eq_of_parse_plain hp
    exact ⟨classId, name, .plain hp⟩
  | qualified name mixin => exact ⟨mixin, name, .qualified hp⟩

theorem resolve_eq_attributeNotFound_iff :
    h.resolve classId key = .error (.attributeNotFound c name) ↔
      (c = classId ∧ name = key) ∧ h.Undeclared classId key := by
  constructor
  · intro hr
    rcases resolve_eq_error hr with ⟨he, -⟩ | he
    · cases he
    · cases he
      cases hf : h.find? classId with
      | none =>
        rw [resolve, get, hf] at hr
        cases hr
      | some found =>
        rcases resolve_cases hf key with ⟨owner, a, -, -, -, hok⟩ | ⟨hnone, -⟩
        · rw [hr] at hok
          cases hok
        · exact ⟨⟨rfl, rfl⟩, ⟨found, hf⟩, hnone⟩
  · rintro ⟨⟨rfl, rfl⟩, ⟨found, hf⟩, hnone⟩
    rcases resolve_cases hf name with ⟨owner, a, ⟨before, after, hl, hd, -⟩, -⟩ | ⟨-, hr⟩
    · exact absurd hd (hnone owner (by simp [hl]))
    · exact hr

/-- A key is not found exactly where what it asks for is not declared. -/
theorem resolveKey_eq_attributeNotFound_iff :
    h.resolveKey classId key = .error (.attributeNotFound c name) ↔
      Key.Asks classId key c name ∧ h.Undeclared c name := by
  constructor
  · intro hr
    obtain ⟨c', name', ha⟩ := exists_asks classId key
    rw [resolveKey_of_asks ha] at hr
    obtain ⟨⟨rfl, rfl⟩, hu⟩ := resolve_eq_attributeNotFound_iff.1 hr
    exact ⟨ha, hu⟩
  · rintro ⟨ha, hu⟩
    rw [resolveKey_of_asks ha]
    exact resolve_eq_attributeNotFound_iff.2 ⟨⟨rfl, rfl⟩, hu⟩

end Hierarchy

/-! ## Faults of values -/

namespace Query

section Engine

variable {ρ : Type} [Pattern.Engine ρ]
variable {h : Hierarchy} {full : Bool} {declared : Option String} {value query wanted : Value}
  {fault : Fault} {classId key c name : String} {layout : Layout}

theorem Obstructs.ne_attributeNotFound (ho : Obstructs h fault) :
    fault ≠ .attributeNotFound c name := by
  rintro rfl
  cases ho

/-- Every query fails by a class or a pattern. -/
theorem bounds_any : Bounds h (fun _ => True) (fun _ => True) (Obstructs h) where
  item _ _ _ := trivial
  field _ _ _ := trivial
  pattern _ _ hc := .malformed hc
  key {wanted e c fault} _ _ _ hres := by
    obtain ⟨c', name, ha⟩ := Hierarchy.exists_asks c e.1
    rw [Hierarchy.resolveKey_of_asks ha] at hres
    rcases Hierarchy.resolve_eq_error hres with ⟨rfl, hnone⟩ | rfl
    · exact .inl (.unknown hnone)
    · exact .inr ⟨c', name, rfl⟩

theorem obstructs_of_matchValue
    (hm : matchValue h full declared value query = .error fault) : Obstructs h fault :=
  bounds_any.known_matchValue value (fun _ _ => .inl trivial) (fun _ _ => trivial) trivial hm

theorem obstructs_of_matchTyped {attr : ResolvedAttribute}
    (hm : matchTyped h full attr value wanted = .error fault) : Obstructs h fault := by
  rcases matchTyped_eq_error hm with hvalue | hbag
  · exact obstructs_of_matchValue hvalue
  · exact bounds_any.known_matchBag value wanted (fun _ _ => .inl trivial) (fun _ _ => trivial)
      trivial hbag

/-! ## Keys of a query -/

/-- An entry fails by an undeclared key exactly where its own key is looked up and not found. -/
theorem matchFields_singleton_undeclared_iff :
    matchFields h full classId layout [(key, wanted)] = .error (.attributeNotFound c name) ↔
      wanted.isNull = false ∧ Key.isInternal key = false ∧
        h.resolveKey classId key = .error (.attributeNotFound c name) := by
  have hnil : matchFields h full classId layout [] = .ok true := by rw [matchFields]
  rw [matchFields_cons, hnil]
  cases hnull : wanted.isNull with
  | true => simp
  | false =>
    cases hint : Key.isInternal key with
    | true =>
      simp only [Bool.false_eq_true, if_false, if_true, reduceCtorEq, false_and, and_false,
        iff_false]
      intro hm
      split at hm
      · cases hm
      · rcases bind_eq_error hm with hvalue | ⟨v, -, hrest⟩
        · exact (obstructs_of_matchValue hvalue).ne_attributeNotFound rfl
        · split at hrest <;> cases hrest
    | false =>
      simp only [Bool.false_eq_true, if_false, true_and]
      constructor
      · intro hm
        rcases bind_eq_error hm with hattr | ⟨attr, -, hm⟩
        · exact hattr
        · split at hm
          · cases hm
          · rcases bind_eq_error hm with htyped | ⟨matched, -, hrest⟩
            · exact absurd rfl (obstructs_of_matchTyped htyped).ne_attributeNotFound
            · split at hrest <;> cases hrest
      · intro hr
        rw [hr]
        rfl

/-- A query that fails by an undeclared key has an entry that does so alone, in every mode of
matching, and what stands before it matches. -/
theorem exists_undeclared_entry {asked : Layout}
    (hm : matchFields h full classId layout asked = .error (.attributeNotFound c name)) :
    ∃ before e after, asked = before ++ e :: after ∧
      (∀ a ∈ before, matchFields h full classId layout [a] = .ok true) ∧
      ∀ mode, matchFields h mode classId layout [e] = .error (.attributeNotFound c name) := by
  rcases matchFields_cases h full classId layout asked with
    ⟨-, htrue⟩ | ⟨before, e, after, rfl, hbefore, -, hfirst⟩
  · rw [hm] at htrue
    cases htrue
  · rw [hm] at hfirst
    have hentry := matchFields_singleton_undeclared_iff.1 hfirst.symm
    exact ⟨before, e, after, rfl, hbefore,
      fun mode => matchFields_singleton_undeclared_iff.2 hentry⟩

/-- In a query in order of keys, what stands before an entry is what has a smaller key. -/
theorem mem_before_iff {before after : Layout} {e : String × Value}
    (hs : Keyed.Sorted (before ++ e :: after)) {a : String × Value}
    (ha : a ∈ before ++ e :: after) : a ∈ before ↔ a.1 < e.1 := by
  obtain ⟨-, htail, hcross⟩ := List.pairwise_append.1 hs
  constructor
  · intro hb
    exact hcross a hb e List.mem_cons_self
  · intro hlt
    rcases List.mem_append.1 ha with hb | hb
    · exact hb
    · exfalso
      rcases List.mem_cons.1 hb with rfl | hb
      · exact String.lt_irrefl _ hlt
      · exact String.lt_asymm hlt (List.rel_of_pairwise_cons htail hb)

/-! ## Main statement -/

/-- Values are compared without a fault of a key.  A query of a layout fails by an undeclared key
exactly when one of its own keys asks for what is not declared and every smaller one matches. -/
theorem undeclared_keys (h : Hierarchy) (full : Bool) :
    (∀ declared value query fault,
      matchValue h full declared value query = .error fault → Obstructs h fault) ∧
    ∀ classId layout query, Keyed.Sorted query → ∀ c name,
      matchFields h full classId layout query = .error (.attributeNotFound c name) ↔
        ∃ key wanted, (key, wanted) ∈ query ∧ wanted.isNull = false ∧
          Key.isInternal key = false ∧ Key.Asks classId key c name ∧ h.Undeclared c name ∧
          ∀ e ∈ query, e.1 < key → matchFields h full classId layout [e] = .ok true := by
  refine ⟨fun _ _ _ _ hm => obstructs_of_matchValue hm, ?_⟩
  intro classId layout query hs c name
  constructor
  · intro hm
    obtain ⟨before, ⟨key, wanted⟩, after, rfl, hbefore, hentry⟩ := exists_undeclared_entry hm
    obtain ⟨hnull, hint, hres⟩ := matchFields_singleton_undeclared_iff.1 (hentry full)
    obtain ⟨hasks, hundeclared⟩ := Hierarchy.resolveKey_eq_attributeNotFound_iff.1 hres
    refine ⟨key, wanted, by simp, hnull, hint, hasks, hundeclared, fun e he hlt => ?_⟩
    exact hbefore e ((mem_before_iff hs he).2 hlt)
  · rintro ⟨key, wanted, hmem, hnull, hint, hasks, hundeclared, hsmaller⟩
    have hentry : matchFields h full classId layout [(key, wanted)] =
        .error (.attributeNotFound c name) :=
      matchFields_singleton_undeclared_iff.2
        ⟨hnull, hint, Hierarchy.resolveKey_eq_attributeNotFound_iff.2 ⟨hasks, hundeclared⟩⟩
    obtain ⟨before, after, rfl⟩ := List.append_of_mem hmem
    have hbefore : ∀ a ∈ before, matchFields h full classId layout [a] = .ok true := by
      intro a ha
      have hin : a ∈ before ++ (key, wanted) :: after := List.mem_append_left _ ha
      exact hsmaller a hin ((mem_before_iff hs hin).1 ha)
    rw [matchFields_append hbefore, matchFields_cons_of_ne (by simp [hentry]), hentry]

end Engine

/-- A task with the name that is asked for has no rate, which is a fault; an object of a class that is
not there is compared with a fault too, but not one of a key. -/
theorem undeclared_keys_rate :
    matchFields .tasks true "Task" [("_class", .string "Task"), ("name", .string "x")]
        [("name", .string "x"), ("rate", .number (.integer 1))] =
          .error (.attributeNotFound "Task" "rate") ∧
      matchValue .tasks true none (.object [("_class", .string "Gone")])
        (.object [("rate", .number (.integer 1))]) = .error (.notFound "Gone") ∧
      Obstructs .tasks (.notFound "Gone") := by
  have hname : matchFields .tasks true "Task"
      [("_class", .string "Task"), ("name", .string "x")] [("name", .string "x")] = .ok true := by
    have hattr : Hierarchy.tasks.resolveKey "Task" "name" =
        .ok ⟨⟨"name", .string⟩, "Task", .plain "name"⟩ := rfl
    rw [matchFields_cons, hattr]
    show (matchValue .tasks true none (.string "x") (.string "x")).map Verdict.isHit >>= _ = _
    rw [matchValue_leaf_other (by simp) (by simp) (by simp)]
    show matchFields _ _ _ _ [] = _
    rw [matchFields]
  have hrate : Hierarchy.Undeclared .tasks "Task" "rate" :=
    (Hierarchy.resolve_eq_attributeNotFound_iff.1 rfl).2
  have hgone : matchValue .tasks true none (.object [("_class", .string "Gone")])
      (.object [("rate", .number (.integer 1))]) = .error (.notFound "Gone") := by
    have hclass : Hierarchy.tasks.embeddedClass none [("_class", .string "Gone")] =
        some "Gone" := rfl
    have hpattern : pattern? [("rate", .number (.integer 1))] = none := rfl
    rw [matchValue, hpattern, hclass]
    show missUndeclared (matchFields _ _ _ _ _) = _
    rw [matchFields_cons]
    rfl
  obtain ⟨hvalue, hquery⟩ := undeclared_keys .tasks true
  refine ⟨?_, hgone, hvalue _ _ _ _ hgone⟩
  refine (hquery "Task" _ _ (by decide) _ _).2
    ⟨"rate", .number (.integer 1), by simp, rfl, by decide, .plain rfl, hrate, ?_⟩
  intro e he hlt
  rcases List.mem_cons.1 he with rfl | he
  · exact hname
  · rw [List.mem_singleton.1 he] at hlt
    exact absurd hlt (String.lt_irrefl _)

end Query

end TypedDocs
