import TypedDocs.Query.Kept

/-!
# Keeping patterns does not show

Whatever queries came before, a query gets what the compiler makes of its pattern; at most as many
patterns as the memo has room for are kept, none of a text or of options that the compiler refuses,
and each is what the compiler makes of its key.

    m.Exact capacity compute → (m.find (some capacity) compute key).2.Exact capacity compute
                                                                              (Memo.Exact.find)
    (compileAll build .empty queries).1 = queries.map (compile build)             (compileAll_eq)

The three things that a query can do to the memo are in `compileKept_cases`.
-/

namespace TypedDocs

namespace Memo

variable {κ α ε : Type}

/-- Not more results are kept than there is room for, one for a key, and each is what the
computation gives. -/
structure Exact (capacity : Nat) (compute : κ → Except ε α) (m : Memo κ α) : Prop where
  bounded : m.size ≤ capacity
  distinct : (m.entries.map Prod.fst).Nodup
  computed : ∀ e ∈ m.entries, compute e.1 = .ok e.2

section Lookup

variable [BEq κ] [LawfulBEq κ] {m : Memo κ α} {key : κ} {result : α}

theorem mem_of_get? (hg : m.get? key = some result) : (key, result) ∈ m.entries := by
  obtain ⟨before, after, heq, -⟩ := List.lookup_eq_some_iff.1 hg
  rw [heq]
  simp

theorem not_mem_keys_of_get? (hg : m.get? key = none) : key ∉ m.entries.map Prod.fst := by
  intro hm
  obtain ⟨e, he, rfl⟩ := List.mem_map.1 hm
  have hne := List.lookup_eq_none_iff.1 hg e he
  simp at hne

end Lookup

variable {capacity : Nat} {compute : κ → Except ε α} {m : Memo κ α}

theorem exact_empty (capacity : Nat) (compute : κ → Except ε α) :
    (empty : Memo κ α).Exact capacity compute :=
  ⟨Nat.zero_le capacity, List.nodup_nil, fun _ he => by cases he⟩

variable [BEq κ] [LawfulBEq κ] {key : κ} {result : α}

theorem Exact.faithful (hm : m.Exact capacity compute) : m.Faithful compute := fun key result hg =>
  hm.computed (key, result) (mem_of_get? hg)

theorem Exact.keep (hm : m.Exact capacity compute) (hroom : 0 < capacity)
    (hnew : m.get? key = none) (hr : compute key = .ok result) :
    (m.keep (some capacity) key result).Exact capacity compute := by
  cases hfull : m.isFull (some capacity) with
  | true =>
    have hkeep : m.keep (some capacity) key result = ⟨[(key, result)]⟩ := by
      rw [Memo.keep, hfull, if_pos rfl]
    rw [hkeep]
    refine ⟨hroom, by simp, fun e he => ?_⟩
    cases List.mem_singleton.1 he
    exact hr
  | false =>
    have hkeep : m.keep (some capacity) key result = ⟨(key, result) :: m.entries⟩ := by
      rw [Memo.keep, hfull, if_neg Bool.false_ne_true]
    have hsize : m.size < capacity := by
      simpa [isFull] using hfull
    rw [hkeep]
    refine ⟨hsize, ?_, ?_⟩
    · rw [List.map_cons, List.nodup_cons]
      exact ⟨not_mem_keys_of_get? hnew, hm.distinct⟩
    · intro e he
      rcases List.mem_cons.1 he with rfl | he
      · exact hr
      · exact hm.computed e he

theorem Exact.find (hm : m.Exact capacity compute) (hroom : 0 < capacity) (key : κ) :
    (m.find (some capacity) compute key).2.Exact capacity compute := by
  rw [Memo.find]
  cases hg : m.get? key with
  | some kept => exact hm
  | none =>
    cases hc : compute key with
    | error e => exact hm
    | ok result => exact hm.keep hroom hg hc

end Memo

namespace Query

variable {ρ : Type} {build : String → List Pattern.Flag → Except String ρ} {m : KeptPatterns ρ}
  {query : Layout}

/-- The memo keeps at most its capacity, each pattern being what the compiler makes of its text and
its options. -/
abbrev KeepsCompiled (build : String → List Pattern.Flag → Except String ρ)
    (m : KeptPatterns ρ) : Prop :=
  m.Exact Pattern.capacity fun key => Pattern.compileWith build key.1 key.2

/-! ## One query -/

/-- A query leaves the memo when its pattern is kept or refused; otherwise it keeps its pattern, for
which a full memo gives up all others. -/
theorem compileKept_cases (build : String → List Pattern.Flag → Except String ρ)
    (m : KeptPatterns ρ) (query : Layout) :
    (∃ result, (askedPattern query, result) ∈ m.entries ∧
        compileKept build m query = (.ok result, m)) ∨
      (∃ fault, compile build query = .error fault ∧
        compileKept build m query = (.error fault, m)) ∨
      ∃ result, compile build query = .ok result ∧
        askedPattern query ∉ m.entries.map Prod.fst ∧
        compileKept build m query = (.ok result, ⟨(askedPattern query, result) ::
          if Pattern.capacity ≤ m.size then [] else m.entries⟩) := by
  simp only [compileKept, compile, Pattern.compileKept, Memo.find]
  cases hg : m.get? (askedPattern query) with
  | some result => exact .inl ⟨result, Memo.mem_of_get? hg, rfl⟩
  | none =>
    right
    cases Pattern.compileWith build (askedPattern query).1 (askedPattern query).2 with
    | error reason => exact .inl ⟨_, rfl, rfl⟩
    | ok result =>
      refine .inr ⟨result, rfl, Memo.not_mem_keys_of_get? hg, ?_⟩
      have hok : (Except.ok result : Except PatternError ρ).mapError
          (Fault.invalidPattern (askedPattern query).1) = .ok result := rfl
      simp [hok, Memo.keep, Memo.isFull]

theorem compileKept_eq (hm : KeepsCompiled build m) (query : Layout) :
    (compileKept build m query).1 = compile build query := by
  have hresult : (Pattern.compileKept build m (askedPattern query).1 (askedPattern query).2).1 =
      Pattern.compileWith build (askedPattern query).1 (askedPattern query).2 :=
    Memo.result_find hm.faithful
  simp only [compileKept, compile, hresult]

theorem keepsCompiled_compileKept (hm : KeepsCompiled build m) (query : Layout) :
    KeepsCompiled build (compileKept build m query).2 :=
  hm.find (by decide) (askedPattern query)

/-- What is kept after a query was kept before, or is its own pattern. -/
theorem mem_entries_compileKept {e : (String × String) × ρ}
    (he : e ∈ (compileKept build m query).2.entries) :
    e ∈ m.entries ∨ askedPattern query = e.1 := by
  rcases compileKept_cases build m query with
    ⟨result, -, heq⟩ | ⟨fault, -, heq⟩ | ⟨result, -, -, heq⟩
  · rw [heq] at he
    exact .inl he
  · rw [heq] at he
    exact .inl he
  · rw [heq] at he
    rcases List.mem_cons.1 he with rfl | hold
    · exact .inr rfl
    · split at hold
      · cases hold
      · exact .inl hold

/-! ## Several queries -/

theorem compileAll_eq (hm : KeepsCompiled build m) (queries : List Layout) :
    (compileAll build m queries).1 = queries.map (compile build) := by
  induction queries generalizing m with
  | nil => rfl
  | cons query queries ih =>
    rw [compileAll, List.map_cons, ← compileKept_eq hm]
    exact congrArg _ (ih (keepsCompiled_compileKept hm query))

theorem keepsCompiled_compileAll (hm : KeepsCompiled build m) (queries : List Layout) :
    KeepsCompiled build (compileAll build m queries).2 := by
  induction queries generalizing m with
  | nil => exact hm
  | cons query queries ih => exact ih (keepsCompiled_compileKept hm query)

/-- What is kept was kept before or has been asked for since. -/
theorem mem_entries_compileAll {queries : List Layout} {e : (String × String) × ρ}
    (he : e ∈ (compileAll build m queries).2.entries) :
    e ∈ m.entries ∨ ∃ query ∈ queries, askedPattern query = e.1 := by
  induction queries generalizing m with
  | nil => exact .inl he
  | cons query queries ih =>
    have hrest : e ∈ (compileAll build (compileKept build m query).2 queries).2.entries := he
    rcases ih hrest with hkept | ⟨asker, hasker, hkey⟩
    · rcases mem_entries_compileKept hkept with hbefore | hkey
      · exact .inl hbefore
      · exact .inr ⟨query, List.mem_cons_self, hkey⟩
    · exact .inr ⟨asker, List.mem_cons_of_mem query hasker, hkey⟩

/-! ## Main statement -/

/-- Whatever the compiler is, each of several queries gets what it makes of the query's pattern, be
it refused or not; not more than 128 patterns are kept after them, one for a text with its options,
each being what the compiler makes of these, which a query has asked for; and nothing is kept for a
text and options that are refused. -/
theorem keeping_patterns (build : String → List Pattern.Flag → Except String ρ)
    (queries : List Layout) :
    ∃ results kept, compileAll build .empty queries = (results, kept) ∧
      results = queries.map (compile build) ∧
      kept.size ≤ 128 ∧ (kept.entries.map Prod.fst).Nodup ∧
      (∀ pattern options result, ((pattern, options), result) ∈ kept.entries →
        Pattern.compileWith build pattern options = .ok result ∧
          ∃ query ∈ queries, askedPattern query = (pattern, options)) ∧
      ∀ pattern options reason, Pattern.compileWith build pattern options = .error reason →
        (pattern, options) ∉ kept.entries.map Prod.fst := by
  have hempty : KeepsCompiled build (.empty : KeptPatterns ρ) := Memo.exact_empty _ _
  have hkept := keepsCompiled_compileAll hempty queries
  refine ⟨_, _, rfl, compileAll_eq hempty queries, hkept.bounded, hkept.distinct, ?kept, ?refused⟩
  case kept =>
    intro pattern options result he
    rcases mem_entries_compileAll he with hbefore | hasked
    · cases hbefore
    · exact ⟨hkept.computed _ he, hasked⟩
  case refused =>
    intro pattern options reason hr hm
    obtain ⟨⟨key, result⟩, he, rfl⟩ := List.mem_map.1 hm
    have hok := hkept.computed _ he
    rw [hr] at hok
    cases hok

/-- A text and options that are refused leave what is kept for the next query. -/
theorem keeping_patterns_refused :
    ∃ kept : KeptPatterns String,
      compileAll (fun text _ => if text = "(" then .error "unclosed group" else .ok text) .empty
          [[("$regex", .string "a")], [("$regex", .string "(")],
            [("$options", .string "q"), ("$regex", .string "a")], [("$regex", .string "a")]] =
        ([.ok "a", .error (.invalidPattern "(" (.rejected "unclosed group")),
          .error (.invalidPattern "a" (.unsupportedOption 'q')), .ok "a"], kept) ∧
      kept.size ≤ 128 ∧ ("(", "") ∉ kept.entries.map Prod.fst ∧
      ("a", "q") ∉ kept.entries.map Prod.fst := by
  obtain ⟨results, kept, hall, rfl, hsize, -, -, hrefused⟩ := keeping_patterns
    (fun text _ => if text = "(" then .error "unclosed group" else .ok text)
    [[("$regex", .string "a")], [("$regex", .string "(")],
      [("$options", .string "q"), ("$regex", .string "a")], [("$regex", .string "a")]]
  exact ⟨kept, hall, hsize, hrefused "(" "" (.rejected "unclosed group") rfl,
    hrefused "a" "q" (.unsupportedOption 'q') rfl⟩

end Query

end TypedDocs
