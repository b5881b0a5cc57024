import TypedDocs.Value

/-!
# Paths into a layout

A path leads through fields and places of arrays to a value inside a layout.  What stands at
the end of a path can be read and, when the path leads anywhere, replaced:

    replace? root path new = some root' → at? root' path = some new          (at?_replace?)
    replace? root path a = some root' →
      replace? root' path b = replace? root path b                           (replace?_replace?)
-/

namespace TypedDocs

/-- One step of a path. -/
inductive PathStep where
  | field (key : String)
  | index (place : Nat)
deriving DecidableEq, Repr

/-- A way from a layout to a value inside it. -/
abbrev Path := List PathStep

namespace Value

/-! ## Algorithm -/

/-- The value at the end of a path. -/
def at? : Value → Path → Option Value
  | v, [] => some v
  | .object fields, .field key :: path => (Keyed.get? fields key).bind fun v => at? v path
  | .array items, .index i :: path => items[i]?.bind fun v => at? v path
  | _, _ :: _ => none
termination_by structural _ path => path

/-- The value with another one at the end of a path; nothing when the path leads nowhere. -/
def replace? : Value → Path → Value → Option Value
  | _, [], new => some new
  | .object fields, .field key :: path, new => do
    let old ← Keyed.get? fields key
    return .object (Keyed.insert fields key (← replace? old path new))
  | .array items, .index i :: path, new => do
    let old ← items[i]?
    return .array (items.set i (← replace? old path new))
  | _, _ :: _, _ => none
termination_by structural _ path => path

/-! ## Lemmas -/

theorem at?_replace? {root root' new : Value} {path : Path}
    (h : replace? root path new = some root') : at? root' path = some new := by
  fun_induction replace? root path new generalizing root' with
  | case1 => simp_all [at?]
  | case2 key path new fields ih =>
    simp only [bind, Option.bind_eq_some_iff] at h
    obtain ⟨old, _, inner, hinner, heq⟩ := h
    cases heq
    simp [at?, ih old hinner]
  | case3 i path new items ih =>
    simp only [bind, Option.bind_eq_some_iff] at h
    obtain ⟨old, hold, inner, hinner, heq⟩ := h
    cases heq
    obtain ⟨hi, _⟩ := List.getElem?_eq_some_iff.1 hold
    simp [at?, hi, ih old hinner]
  | case4 => simp at h

/-- Of two values that are put at one place the second counts. -/
theorem replace?_replace? {root root' a : Value} {path : Path}
    (h : replace? root path a = some root') (b : Value) :
    replace? root' path b = replace? root path b := by
  fun_induction replace? root path a generalizing root' with
  | case1 => simp [replace?]
  | case2 key path a fields ih =>
    simp only [bind, Option.bind_eq_some_iff] at h
    obtain ⟨old, hold, inner, hinner, heq⟩ := h
    cases heq
    simp [replace?, hold, ih old hinner, Keyed.insert_insert]
  | case3 i path a items ih =>
    simp only [bind, Option.bind_eq_some_iff] at h
    obtain ⟨old, hold, inner, hinner, heq⟩ := h
    cases heq
    obtain ⟨hi, he⟩ := List.getElem?_eq_some_iff.1 hold
    simp [replace?, he, hi, ih old hinner]
  | case4 => simp at h

theorem exists_replace? {root old : Value} {path : Path} (h : at? root path = some old)
    (new : Value) : ∃ root', replace? root path new = some root' := by
  fun_induction at? root path generalizing old with
  | case1 => exact ⟨new, by simp [replace?]⟩
  | case2 fields key path ih =>
    obtain ⟨v, hv, hold⟩ := Option.bind_eq_some_iff.1 h
    obtain ⟨inner, hinner⟩ := ih v hold
    exact ⟨.object (Keyed.insert fields key inner), by simp [replace?, hv, hinner]⟩
  | case3 items i path ih =>
    obtain ⟨v, hv, hold⟩ := Option.bind_eq_some_iff.1 h
    obtain ⟨inner, hinner⟩ := ih v hold
    exact ⟨.array (items.set i inner), by simp [replace?, hv, hinner]⟩
  | case4 => simp at h

end Value

namespace Layout

/-- The layout at the end of a path. -/
def at? (root : Layout) (path : Path) : Option Layout :=
  match Value.at? (.object root) path with
  | some (.object fields) => some fields
  | _ => none

/-- The layout with another layout at the end of a path. -/
def replace? (root : Layout) (path : Path) (new : Layout) : Option Layout :=
  match Value.replace? (.object root) path (.object new) with
  | some (.object fields) => some fields
  | _ => none

/-! ## Lemmas -/

variable {root root' new : Layout} {path : Path}

theorem at?_eq_some_iff {layout : Layout} :
    root.at? path = some layout ↔ Value.at? (.object root) path = some (.object layout) := by
  rw [at?]
  split
  · next fields h => simp [h]
  · next h =>
    constructor
    · intro h'
      cases h'
    · intro h'
      exact absurd h' (h layout)

theorem replace?_eq_some_iff :
    root.replace? path new = some root' ↔
      Value.replace? (.object root) path (.object new) = some (.object root') := by
  rw [replace?]
  split
  · next fields h => simp [h]
  · next h =>
    constructor
    · intro h'
      cases h'
    · intro h'
      exact absurd h' (h root')

@[simp] theorem replace?_nil : root.replace? [] new = some new := by
  simp [replace?_eq_some_iff, Value.replace?]

theorem at?_of_replace? (h : root.replace? path new = some root') :
    root'.at? path = some new :=
  at?_eq_some_iff.2 (Value.at?_replace? (replace?_eq_some_iff.1 h))

theorem replace?_of_replace? (h : root.replace? path new = some root') (other : Layout) :
    root'.replace? path other = root.replace? path other := by
  rw [replace?, replace?, Value.replace?_replace? (replace?_eq_some_iff.1 h)]

/-- A replacement below the root writes one entry of the root. -/
theorem replace?_cons {step : PathStep} {rest : Path}
    (h : root.replace? (step :: rest) new = some root') :
    ∃ key value, step = .field key ∧ root' = root.insert key value := by
  rw [replace?_eq_some_iff] at h
  cases step with
  | index i => simp [Value.replace?] at h
  | field key =>
    simp only [Value.replace?, bind, Option.bind_eq_some_iff] at h
    obtain ⟨old, -, inner, -, he⟩ := h
    cases he
    exact ⟨key, inner, rfl, rfl⟩

/-- A replacement below the root gives the root no new key. -/
theorem exists_mem_of_replace?_cons {step : PathStep} {rest : Path}
    (h : root.replace? (step :: rest) new = some root') {e : String × Value} (he : e ∈ root') :
    ∃ value, (e.1, value) ∈ root := by
  rw [replace?_eq_some_iff] at h
  cases step with
  | index i => simp [Value.replace?] at h
  | field key =>
    simp only [Value.replace?, bind, Option.bind_eq_some_iff] at h
    obtain ⟨old, hold, inner, -, hroot⟩ := h
    cases hroot
    rcases Keyed.mem_insert he with rfl | he
    · exact ⟨old, Keyed.mem_of_get? hold⟩
    · exact ⟨e.2, he⟩

theorem exists_replace? {old : Layout} (h : root.at? path = some old) (new : Layout) :
    ∃ root', root.replace? path new = some root' := by
  obtain ⟨v, hv⟩ := Value.exists_replace? (at?_eq_some_iff.1 h) (.object new)
  cases path with
  | nil => exact ⟨new, replace?_nil⟩
  | cons step rest =>
    cases step with
    | index i => simp [Value.replace?] at hv
    | field key =>
      have hv' := hv
      simp only [Value.replace?, bind, Option.bind_eq_some_iff] at hv'
      obtain ⟨old, -, inner, -, he⟩ := hv'
      cases he
      exact ⟨_, replace?_eq_some_iff.2 hv⟩

end Layout

end TypedDocs
