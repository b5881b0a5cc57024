import TypedDocs.Number.Basic
import TypedDocs.Number.Shortest

/-!
# Number literals

How a number is read from a literal and written as one.

*Reading.*  A literal without fraction and exponent is a whole number if it fits 64 bits;
`-0` is not.  Any other is read in two roundings: its leading digits, as many as fit 64 bits,
become a binary64 number, which is then multiplied or divided by the binary64 power of ten.

*Writing.*  The shortest digits, positional from `10 ^ -5` up to `10 ^ 16` and with an exponent
outside.
-/

namespace TypedDocs

/-- The parts of a number literal, its digits as values. -/
structure NumberLiteral where
  negative : Bool
  whole : List Nat
  fraction : Option (List Nat)
  exponent : Option Int
deriving DecidableEq, Repr

namespace NumberLiteral

/-! ## Reading -/

/-- The greatest integer of 64 bits. -/
def maxUnsigned : Nat := Nat.pow 2 64 - 1

/-- Appends digits to `acc` as long as it fits 64 bits; returns it with the digits left. -/
def takeFitting (acc : Nat) : List Nat → Nat × List Nat
  | [] => (acc, [])
  | d :: ds => if acc * 10 + d ≤ maxUnsigned then takeFitting (acc * 10 + d) ds else (acc, d :: ds)

/-- The binary64 number nearest to `10 ^ k`, for `k ≤ 308`. -/
def powerOfTen (k : Nat) : Binary64 :=
  (Binary64.round? false (Nat.pow 10 k) 1).getD (Binary64.largest false)

/-- The greatest power of ten in the format has this exponent. -/
def maxPower : Nat := 308

/-- `x / 10 ^ (308 · n)`, one rounding for each factor. -/
def scaleDown (x : Binary64) : Nat → Binary64
  | 0 => x
  | n + 1 => scaleDown ((x.div? (powerOfTen maxPower)).getD x) n

/-- `x · 10 ^ e`, one rounding for each power of ten up to `10 ^ 308`; nothing on overflow.
Three factors take every `x` below `2 ^ 64` to zero, so no more are divided out. -/
def scale? (x : Binary64) (e : Int) : Option Binary64 :=
  if 0 ≤ e then
    if e ≤ maxPower then x.mul? (powerOfTen e.toNat) else if x.isZero then some x else none
  else
    let steps := ((-e).toNat - 1) / maxPower
    (scaleDown x (min steps 3)).div? (powerOfTen ((-e).toNat - maxPower * steps))

/-- The value read as a binary64 number; nothing when it is beyond the format. -/
def toBinary64? (l : NumberLiteral) : Option Binary64 :=
  let (s, dropped) := takeFitting 0 l.whole
  let digits := l.fraction.getD []
  let (s, left) := takeFitting s digits
  let shift : Int := dropped.length - (digits.length - left.length : Nat)
  let magnitude := (Binary64.round? false s 1).getD (Binary64.largest false)
  (scale? magnitude (shift + l.exponent.getD 0)).map fun x => { x with negative := l.negative }

/-- The whole number that the digits spell. -/
def wholeValue (l : NumberLiteral) : Nat := l.whole.foldl (fun acc d => acc * 10 + d) 0

/-- The number a literal denotes; nothing when it is beyond binary64. -/
def toNumber? (l : NumberLiteral) : Option Number :=
  let isWhole := l.fraction.isNone && l.exponent.isNone
  let v := l.wholeValue
  if isWhole && !l.negative && v ≤ maxUnsigned then some (.integer v)
  else if isWhole && l.negative && 0 < v && v ≤ Nat.pow 2 63 then some (.integer (-v))
  else l.toBinary64?.map .double

end NumberLiteral

/-! ## Writing -/

namespace Binary64

/-- A number is written positionally when its first digit stands at most this many places
before the point. -/
def maxPoint : Int := 16

/-- A number is written positionally when fewer than this many zeros follow the point. -/
def minPoint : Int := -5

private def zeros (n : Nat) : List Char := List.replicate n '0'

/-- The text of a nonnegative number other than zero from its shortest decimal. -/
def Shortest.text (s : Shortest) : List Char :=
  let n : Int := s.digits.length
  if minPoint < s.point ∧ s.point ≤ maxPoint then
    if n ≤ s.point then s.digits ++ zeros (s.point - n).toNat ++ ['.', '0']
    else if 0 < s.point then
      s.digits.take s.point.toNat ++ '.' :: s.digits.drop s.point.toNat
    else '0' :: '.' :: zeros (-s.point).toNat ++ s.digits
  else
    let e := s.point - 1
    let mantissa := match s.digits with
      | d :: e :: es => d :: '.' :: e :: es
      | ds => ds
    mantissa ++ 'e' :: (if e < 0 then '-' else '+') :: Nat.toDigits 10 e.natAbs

/-- The text of a binary64 number: the fewest digits that read back. -/
def text (x : Binary64) : String :=
  let digits := if x.isZero then ['0', '.', '0'] else (shortest x).text
  String.ofList (if x.negative then '-' :: digits else digits)

end Binary64

/-- The text of a number. -/
def Number.text : Number → String
  | .integer i => toString i
  | .double x => x.text

end TypedDocs
