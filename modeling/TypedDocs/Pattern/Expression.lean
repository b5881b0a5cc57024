/-!
# Regular expressions

Expressions over steps, which take one character, and checks, which take none.  An expression
leads from places of a text to places of it.

A set of places is a number whose bit `i` says whether place `i` belongs to it.  For a fixed
text a step is the set of places whose character it takes, a check the set of places where it
holds, and `run` computes the places that an expression leads to from any place of a set.  A
repetition is followed until it reaches no new place, which it does after as many rounds as
there are places.
-/

namespace TypedDocs.Pattern

/-- A regular expression over steps and checks. -/
inductive Expression (σ κ : Type) where
  | empty
  | step (s : σ)
  | check (k : κ)
  | sequence (first second : Expression σ κ)
  | choice (left right : Expression σ κ)
  | repetition (e : Expression σ κ) (least : Nat) (most : Option Nat)

namespace Expression

variable {σ κ : Type}

/-! ## Algorithm -/

/-- Gives steps and checks another form. -/
def map {σ' κ' : Type} (f : σ → σ') (g : κ → κ') : Expression σ κ → Expression σ' κ'
  | .empty => .empty
  | .step s => .step (f s)
  | .check k => .check (g k)
  | .sequence a b => .sequence (a.map f g) (b.map f g)
  | .choice a b => .choice (a.map f g) (b.map f g)
  | .repetition e least most => .repetition (e.map f g) least most

/-- Applies a function `n` times, or until it changes nothing. -/
def iterate (f : Nat → Nat) : Nat → Nat → Nat
  | 0, m => m
  | n + 1, m => let next := f m; if next = m then m else iterate f n next

/-- The places reached from `fresh` in at most `rounds` rounds, and those `seen` before. -/
def close (f : Nat → Nat) : (rounds : Nat) → (seen fresh : Nat) → Nat
  | 0, seen, _ => seen
  | rounds + 1, seen, fresh =>
    if fresh = 0 then seen else
      let all := seen ||| f fresh
      close f rounds all (all ^^^ seen)

/-- The places that an expression leads to from a set of the first `places` places, its steps
and checks being sets of places. -/
def run (places : Nat) : Expression Nat Nat → Nat → Nat
  | .empty, m => m
  | .step s, m => (m &&& s) <<< 1
  | .check k, m => m &&& k
  | .sequence a b, m => run places b (run places a m)
  | .choice a b, m => run places a m ||| run places b m
  | .repetition e least most, m =>
    let start := iterate (run places e) least m
    match most with
    | none => close (run places e) places start start
    | some most => close (run places e) (min (most - least) places) start start

end Expression

end TypedDocs.Pattern
