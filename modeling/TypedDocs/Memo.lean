/-!
# Kept results

A memo keeps the results of a computation under their keys, so that none is computed twice.
A failure is not kept, and a memo that is full is emptied before the next result is kept.

A memo is *faithful* to a computation when it keeps nothing else than what the computation gives.
Then it does not show, and it stays faithful:

    m.Faithful compute → (m.find capacity compute key).1 = compute key             (result_find)
    m.Faithful compute → (m.find capacity compute key).2.Faithful compute       (Faithful.find)
-/

namespace TypedDocs

/-- Results under their keys, the last kept first. -/
structure Memo (κ α : Type) where
  entries : List (κ × α)

namespace Memo

variable {κ α ε : Type}

/-- No results. -/
def empty : Memo κ α := ⟨[]⟩

/-- How many results are kept. -/
def size (m : Memo κ α) : Nat := m.entries.length

/-- The result kept under a key. -/
def get? [BEq κ] (m : Memo κ α) (key : κ) : Option α := m.entries.lookup key

/-- Whether no further result can be kept; without a capacity one always can. -/
def isFull (capacity : Option Nat) (m : Memo κ α) : Bool := capacity.any (· ≤ m.size)

/-- Keeps a result. -/
def keep (capacity : Option Nat) (m : Memo κ α) (key : κ) (result : α) : Memo κ α :=
  ⟨(key, result) :: if m.isFull capacity then [] else m.entries⟩

/-- The result of a computation for a key, kept or computed now, and the memo after it. -/
def find [BEq κ] (capacity : Option Nat) (compute : κ → Except ε α) (m : Memo κ α) (key : κ) :
    Except ε α × Memo κ α :=
  match m.get? key with
  | some result => (.ok result, m)
  | none =>
    match compute key with
    | .error e => (.error e, m)
    | .ok result => (.ok result, m.keep capacity key result)

/-- Every result that is kept is what the computation gives. -/
def Faithful [BEq κ] (compute : κ → Except ε α) (m : Memo κ α) : Prop :=
  ∀ key result, m.get? key = some result → compute key = .ok result

/-! ## Lemmas -/

section Lemmas

variable [BEq κ] {m : Memo κ α} {capacity : Option Nat} {compute : κ → Except ε α} {key : κ}

theorem faithful_empty (compute : κ → Except ε α) : (empty : Memo κ α).Faithful compute := by
  intro key result hr
  cases hr

theorem get?_keep (m : Memo κ α) (capacity : Option Nat) (key other : κ) (result : α) :
    (m.keep capacity key result).get? other =
      if other == key then some result else if m.isFull capacity then none else m.get? other := by
  rw [get?, keep, List.lookup_cons]
  cases other == key with
  | true => rfl
  | false => cases m.isFull capacity <;> rfl

theorem Faithful.keep [LawfulBEq κ] (hm : m.Faithful compute) {result : α}
    (hr : compute key = .ok result) : (m.keep capacity key result).Faithful compute := by
  intro other kept hk
  rw [get?_keep] at hk
  split at hk
  · next he =>
    cases hk
    rw [eq_of_beq he]
    exact hr
  · split at hk
    · cases hk
    · exact hm other kept hk

/-- A faithful memo gives what the computation gives, failures included. -/
theorem result_find (hm : m.Faithful compute) : (m.find capacity compute key).1 = compute key := by
  rw [find]
  cases hk : m.get? key with
  | some result => exact (hm key result hk).symm
  | none =>
    cases compute key with
    | error e => rfl
    | ok result => rfl

theorem Faithful.find [LawfulBEq κ] (hm : m.Faithful compute) (capacity : Option Nat) (key : κ) :
    (m.find capacity compute key).2.Faithful compute := by
  rw [Memo.find]
  cases m.get? key with
  | some result => exact hm
  | none =>
    cases hc : compute key with
    | error e => exact hm
    | ok result => exact hm.keep hc

end Lemmas

end Memo

end TypedDocs
