/-!
# Finite binary64 numbers

A number `± significand · 2 ^ exponent` in the binary64 format, and rounding to it in exact
integer arithmetic: to the nearest, a tie to the even significand.  Significands are below
`2 ^ 53` and exponents not below `-1074`; of the forms of a value that with the least exponent
is used, so each value has one.
-/

namespace TypedDocs

/-- A finite binary64 number: a sign and `significand · 2 ^ exponent`. -/
structure Binary64 where
  negative : Bool
  significand : Nat
  exponent : Int
deriving DecidableEq, Repr

namespace Binary64

/-! ## Algorithm -/

/-- The least exponent, that of zero and of the subnormal numbers. -/
def minExponent : Int := -1074

/-- The greatest exponent of a finite number. -/
def maxExponent : Int := 971

/-- Zero with the given sign. -/
def zero (negative : Bool) : Binary64 := ⟨negative, 0, minExponent⟩

/-- Whether the value is zero, whatever the sign. -/
def isZero (x : Binary64) : Bool := x.significand == 0

/-- The whole number nearest to `num / den`, a tie going to the even one. -/
def roundDiv (num den : Nat) : Nat :=
  let q := num / den
  let r := num % den
  if 2 * r > den || (2 * r == den && q % 2 == 1) then q + 1 else q

/-- `num / (den · 2 ^ e)` as a fraction. -/
def shiftRatio (num den : Nat) (e : Int) : Nat × Nat :=
  if 0 ≤ e then (num, den * Nat.pow 2 e.toNat) else (num * Nat.pow 2 (-e).toNat, den)

/-- The exponent at which `num / den` has a 53-bit significand, or the least exponent. -/
def exponentOf (num den : Nat) : Int :=
  let e := max (Int.ofNat num.log2 - Int.ofNat den.log2 - 53) minExponent
  let (n, d) := shiftRatio num den e
  if n / d ≥ Nat.pow 2 53 then e + 1 else e

/-- The nearest finite number to `± num / den`; nothing when it is beyond the format. -/
def round? (negative : Bool) (num den : Nat) : Option Binary64 :=
  if num = 0 then some (zero negative) else
    let e := exponentOf num den
    let (n, d) := shiftRatio num den e
    let s := roundDiv n d
    let (s, e) := if s = Nat.pow 2 53 then (Nat.pow 2 52, e + 1) else (s, e)
    if e > maxExponent then none else some ⟨negative, s, e⟩

/-- The greatest finite number, with the given sign. -/
def largest (negative : Bool) : Binary64 := ⟨negative, Nat.pow 2 53 - 1, maxExponent⟩

/-- The nearest number to an integer. -/
def ofInt (i : Int) : Binary64 :=
  let negative := decide (i < 0)
  (round? negative i.natAbs 1).getD (largest negative)

/-- The rounded product. -/
def mul? (x y : Binary64) : Option Binary64 :=
  let (n, d) := shiftRatio (x.significand * y.significand) 1 (-(x.exponent + y.exponent))
  round? (x.negative != y.negative) n d

/-- The rounded quotient of `x` by a number that is not zero. -/
def div? (x y : Binary64) : Option Binary64 :=
  let (n, d) := shiftRatio x.significand y.significand (y.exponent - x.exponent)
  round? (x.negative != y.negative) n d

/-- Equality of values: the two zeros are equal. -/
def sameValue (x y : Binary64) : Bool := x == y || (x.isZero && y.isZero)

/-! ## Lemmas -/

theorem sameValue_refl (x : Binary64) : sameValue x x = true := by
  simp [sameValue]

theorem sameValue_comm (x y : Binary64) : sameValue x y = sameValue y x := by
  simp only [sameValue, Bool.and_comm, Bool.beq_comm (a := x)]

theorem sameValue_trans {x y z : Binary64} (h₁ : sameValue x y = true)
    (h₂ : sameValue y z = true) : sameValue x z = true := by
  simp only [sameValue, Bool.or_eq_true, beq_iff_eq, Bool.and_eq_true] at h₁ h₂ ⊢
  rcases h₁ with rfl | ⟨hx, hy⟩
  · exact h₂
  · rcases h₂ with rfl | ⟨_, hz⟩
    · exact Or.inr ⟨hx, hy⟩
    · exact Or.inr ⟨hx, hz⟩

end Binary64

end TypedDocs
