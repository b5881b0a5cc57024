import TypedDocs.Proofs.Query.Steps

/-!
# Which verdict a comparison gives

A place is named only where an array is compared with a query that is no array: it is the place of
the first item that matches, every item before it being a miss.  All other matches are plain.

    matchValue h full declared value query = .ok v → v.isHit →
      v = .hit ∧ (value is an array → query is one) ∨
      v = .hitAt i ∧ value is an array with a first match at i, and query is none   (matchValue_hit)
-/

namespace TypedDocs.Query

variable {ρ : Type} [Pattern.Engine ρ]
variable {h : Hierarchy} {full : Bool} {declared : Option String} {value query : Value}
  {items patterns : List Value} {v : Verdict}

/-! ## Definitions -/

/-- A value matches a query. -/
def Matches (h : Hierarchy) (full : Bool) (declared : Option String) (value query : Value) : Prop :=
  ∃ v, matchValue h full declared value query = .ok v ∧ v.isHit = true

/-- The item at a place is the first of an array that matches a query. -/
structure FirstMatch (h : Hierarchy) (full : Bool) (declared : Option String) (items : List Value)
    (query : Value) (i : Nat) (item : Value) : Prop where
  found : items[i]? = some item
  matched : Matches h full declared item query
  least : ∀ j < i, ∀ other, items[j]? = some other → ¬Matches h full declared other query

/-! ## Plain comparisons -/

@[simp] theorem index?_ofBool (b : Bool) : (Verdict.ofBool b).index? = none := by cases b <;> rfl

theorem eq_hit_of_index? (hi : v.index? = none) (hh : v.isHit = true) : v = .hit := by
  cases v with
  | miss => cases hh
  | hit => rfl
  | hitAt i => cases hi

theorem index?_map_ofBool {r : Except Fault Bool} (hv : r.map Verdict.ofBool = .ok v) :
    v.index? = none := by
  cases r with
  | error fault => cases hv
  | ok b =>
    cases hv
    exact index?_ofBool b

theorem index?_missUndeclared {r : Except Fault Bool} (hv : missUndeclared r = .ok v) :
    v.index? = none := by
  unfold missUndeclared at hv
  split at hv
  · cases hv
    exact index?_ofBool _
  · cases hv
    rfl
  · cases hv

theorem index?_matchPlaces (hv : matchPlaces h full declared items patterns = .ok v) :
    v.index? = none := by
  induction patterns generalizing items with
  | nil =>
    rw [matchPlaces] at hv
    cases hv
    rfl
  | cons p patterns ih =>
    cases items with
    | nil =>
      rw [matchPlaces] at hv
      cases hv
      exact index?_ofBool _
    | cons item items =>
      rw [matchPlaces] at hv
      obtain ⟨w, -, hv⟩ := bind_eq_ok_iff.1 hv
      split at hv
      · cases hv
        rfl
      · exact ih hv

/-- What is no array is matched as a whole. -/
theorem index?_matchValue (ha : ∀ items, value ≠ .array items)
    (hv : matchValue h full declared value query = .ok v) : v.index? = none := by
  cases value with
  | array items => exact absurd rfl (ha items)
  | object fields =>
    cases query with
    | object wanted =>
      rw [matchValue] at hv
      split at hv
      · cases hv
        exact index?_ofBool _
      · split at hv
        · exact index?_missUndeclared hv
        · cases hv
          exact index?_ofBool _
    | _ =>
      rw [matchValue_object_other (by simp)] at hv
      cases hv
      exact index?_ofBool _
  | _ =>
    cases query with
    | object wanted =>
      rw [matchValue_leaf_object (by simp) (by simp)] at hv
      cases hp : pattern? wanted with
      | none =>
        rw [hp] at hv
        cases hv
        exact index?_ofBool _
      | some p =>
        rw [hp] at hv
        exact index?_map_ofBool hv
    | _ =>
      rw [matchValue_leaf_other (by simp) (by simp) (by simp)] at hv
      cases hv
      exact index?_ofBool _

/-! ## Searching an array -/

theorem FirstMatch.cons {item other : Value} {i : Nat}
    (hf : FirstMatch h full declared items query i item)
    (hm : ¬Matches h full declared other query) :
    FirstMatch h full declared (other :: items) query (i + 1) item where
  found := hf.found
  matched := hf.matched
  least := by
    intro j hj item' hitem'
    cases j with
    | zero =>
      cases hitem'
      exact hm
    | succ j => exact hf.least j (Nat.lt_of_succ_lt_succ hj) item' hitem'

/-- A search from place `n` on that finds something finds the first item that matches. -/
theorem matchAny_hit {n : Nat} (hv : matchAny h full declared n items query = .ok v)
    (hh : v.isHit = true) :
    ∃ i item, v = .hitAt (n + i) ∧ FirstMatch h full declared items query i item := by
  induction items generalizing n with
  | nil =>
    rw [matchAny] at hv
    cases hv
    cases hh
  | cons item items ih =>
    rw [matchAny] at hv
    obtain ⟨w, hw, hv⟩ := bind_eq_ok_iff.1 hv
    cases hhit : w.isHit with
    | true =>
      rw [hhit, if_pos rfl] at hv
      cases hv
      exact ⟨0, item, rfl, rfl, ⟨w, hw, hhit⟩, fun j hj => by cases hj⟩
    | false =>
      rw [hhit, if_neg (by decide)] at hv
      have hmiss : ¬Matches h full declared item query := by
        rintro ⟨w', hw', hhit'⟩
        rw [hw] at hw'
        cases hw'
        rw [hhit] at hhit'
        cases hhit'
      obtain ⟨i, item', rfl, hf⟩ := ih hv
      exact ⟨i + 1, item', by rw [Nat.add_right_comm, Nat.add_assoc], hf.cons hmiss⟩

/-- A search past items that are no match finds the next one that is. -/
theorem matchAny_append_cons {n : Nat} {before after : List Value} {item : Value}
    (hmiss : ∀ other ∈ before, matchValue h full declared other query = .ok .miss)
    (hm : Matches h full declared item query) :
    matchAny h full declared n (before ++ item :: after) query =
      .ok (.hitAt (n + before.length)) := by
  induction before generalizing n with
  | nil =>
    obtain ⟨w, hw, hhit⟩ := hm
    rw [List.nil_append, matchAny, hw, ok_bind, hhit, if_pos rfl]
    rfl
  | cons other before ih =>
    have hother : matchValue h full declared other query = .ok .miss :=
      hmiss other List.mem_cons_self
    have hrest := ih (n := n + 1) fun item hitem => hmiss item (List.mem_cons_of_mem other hitem)
    rw [List.cons_append, matchAny, hother, ok_bind, hrest, List.length_cons, Nat.add_assoc,
      Nat.add_comm 1]
    rfl

/-! ## Main statement -/

/-- A match names a place exactly when an array is compared with a query that is none, and then the
place of the first item that matches. -/
theorem matchValue_hit (hv : matchValue h full declared value query = .ok v)
    (hh : v.isHit = true) :
    (v = .hit ∧ ∀ items, value = .array items → ∃ patterns, query = .array patterns) ∨
      ∃ items i item, v = .hitAt i ∧ value = .array items ∧
        (∀ patterns, query ≠ .array patterns) ∧
        FirstMatch h full declared items query i item := by
  by_cases ha : ∃ items, value = .array items
  · obtain ⟨items, rfl⟩ := ha
    by_cases hq : ∃ patterns, query = .array patterns
    · obtain ⟨patterns, rfl⟩ := hq
      refine .inl ⟨eq_hit_of_index? ?_ hh, fun _ _ => ⟨patterns, rfl⟩⟩
      rw [matchValue] at hv
      split at hv
      · cases hv
        rfl
      · exact index?_matchPlaces hv
    · have hq' : ∀ patterns, query ≠ .array patterns := fun patterns he => hq ⟨patterns, he⟩
      rw [matchValue_array_other hq'] at hv
      obtain ⟨i, item, rfl, hf⟩ := matchAny_hit hv hh
      exact .inr ⟨items, i, item, by rw [Nat.zero_add], rfl, hq', hf⟩
  · have ha' : ∀ items, value ≠ .array items := fun items he => ha ⟨items, he⟩
    exact .inl ⟨eq_hit_of_index? (index?_matchValue ha' hv) hh,
      fun items he => absurd he (ha' items)⟩

end TypedDocs.Query
