import TypedDocs.Number.Binary64

/-!
# The shortest decimal of a binary64 number

The decimals that round to a number `x = m · 2 ^ q` are those of an interval around it, its
ends included when `m` is even.  On the grid of the decimals with `n` digits, if a point lies
in the interval then one of the two neighbours of `x` does, so it is enough to test these
for `n = 1, 2, … 17`; the first grid with a hit has the fewest digits, and of two hits the
nearer is taken.
-/

namespace TypedDocs.Binary64

/-- The decimal `0.d₁d₂…dₙ · 10 ^ point`, its last digit not zero. -/
structure Shortest where
  digits : List Char
  point : Int
deriving DecidableEq, Repr

/-! ## Algorithm -/

/-- `num / den` as a pair scaled by `10 ^ (-e)`. -/
private def shiftDecimal (num den : Nat) (e : Int) : Nat × Nat :=
  if 0 ≤ e then (num, den * Nat.pow 10 e.toNat) else (num * Nat.pow 10 (-e).toNat, den)

/-- The `k` with `10 ^ k ≤ num / den < 10 ^ (k + 1)`, for a positive fraction. -/
def decimalExponent (num den : Nat) : Int :=
  let low := (Int.ofNat num.log2 - Int.ofNat den.log2 - 1) * 30103 / 100000
  let reaches (k : Int) : Bool := let (n, d) := shiftDecimal num den k; d ≤ n
  if reaches (low + 2) then low + 2 else if reaches (low + 1) then low + 1
  else if reaches low then low else low - 1

/-- The interval of the values that round to `x`, in units of a quarter of its last place:
its lower end, `x`, its upper end, and whether the ends belong to it. -/
def roundingInterval (x : Binary64) : Nat × Nat × Nat × Bool :=
  let m := x.significand
  let below := if m = Nat.pow 2 52 ∧ x.exponent ≠ minExponent then 1 else 2
  (4 * m - below, 4 * m, 4 * m + 2, m % 2 == 0)

/-- The nearest decimal with `n` digits that rounds to `x`, as its digits and its exponent. -/
def onGrid (x : Binary64) (k : Int) (n : Nat) : Option (Nat × Int) :=
  let (low, mid, high, closed) := roundingInterval x
  let step := k - n + 1
  -- all in units of `10 ^ step / scale`
  let (unit, one) := shiftRatio 1 1 (2 - x.exponent)
  let (num, den) := shiftDecimal unit one step
  let d := (mid * num) / den
  let inside (c : Nat) : Bool :=
    if closed then low * num ≤ c * den && c * den ≤ high * num
    else low * num < c * den && c * den < high * num
  let up := (d + 1) * den - mid * num
  let down := mid * num - d * den
  let upFirst := up < down || (up == down && d % 2 == 1)
  let candidates := if upFirst then [d + 1, d] else [d, d + 1]
  (candidates.find? inside).map (·, step)

private def dropTrailingZeros (cs : List Char) : List Char :=
  (cs.reverse.dropWhile (· == '0')).reverse

/-- The shortest decimal that rounds to a number that is not zero, its sign aside. -/
def shortest (x : Binary64) : Shortest :=
  let (num, den) := shiftRatio x.significand 1 (-x.exponent)
  let k := decimalExponent num den
  let (d, step) := ((List.range 17).findSome? fun n => onGrid x k (n + 1)).getD (0, 0)
  let digits := Nat.toDigits 10 d
  ⟨dropTrailingZeros digits, step + digits.length⟩

end TypedDocs.Binary64
