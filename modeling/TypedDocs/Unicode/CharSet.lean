/-!
# Sets of characters

A set of code points is the ascending list of the points where membership changes: a point is
in the set when an odd number of them lies at or below it.  The set operations walk two such
lists at once.
-/

namespace TypedDocs

/-- A set of code points, as the points where membership changes, in ascending order. -/
structure CharSet where
  changes : List Nat
deriving DecidableEq, Repr

namespace CharSet

/-- Membership of `n`, which `inside` is before the first change. -/
def containsFrom (inside : Bool) (n : Nat) : List Nat → Bool
  | [] => inside
  | p :: ps => if p ≤ n then containsFrom (!inside) n ps else inside

/-- Whether a code point is in the set. -/
def contains (s : CharSet) (n : Nat) : Bool := containsFrom false n s.changes

/-- The set without members. -/
def empty : CharSet := ⟨[]⟩

/-- The code points from `low` to `high`. -/
def range (low high : Nat) : CharSet := if low ≤ high then ⟨[low, high + 1]⟩ else empty

/-- A single code point. -/
def singleton (n : Nat) : CharSet := range n n

/-- The code points that are not in the set. -/
def complement (s : CharSet) : CharSet :=
  match s.changes with
  | 0 :: ps => ⟨ps⟩
  | ps => ⟨0 :: ps⟩

/-- The changes of a combination of two sets, given the membership before the first ones. -/
def combineFrom (f : Bool → Bool → Bool) (a b : Bool) : List Nat → List Nat → List Nat
  | [], [] => []
  | p :: ps, [] =>
    let rest := combineFrom f (!a) b ps []
    if f a b = f (!a) b then rest else p :: rest
  | [], q :: qs =>
    let rest := combineFrom f a (!b) [] qs
    if f a b = f a (!b) then rest else q :: rest
  | p :: ps, q :: qs =>
    if p < q then
      let rest := combineFrom f (!a) b ps (q :: qs)
      if f a b = f (!a) b then rest else p :: rest
    else if q < p then
      let rest := combineFrom f a (!b) (p :: ps) qs
      if f a b = f a (!b) then rest else q :: rest
    else
      let rest := combineFrom f (!a) (!b) ps qs
      if f a b = f (!a) (!b) then rest else p :: rest
termination_by ps qs => ps.length + qs.length

/-- The code points in either set. -/
def union (s t : CharSet) : CharSet := ⟨combineFrom (· || ·) false false s.changes t.changes⟩

/-- The code points in both sets. -/
def intersection (s t : CharSet) : CharSet :=
  ⟨combineFrom (· && ·) false false s.changes t.changes⟩

/-- The code points of the first set that are not in the second. -/
def difference (s t : CharSet) : CharSet :=
  ⟨combineFrom (fun a b => a && !b) false false s.changes t.changes⟩

/-- The code points in exactly one of the sets. -/
def symmetricDifference (s t : CharSet) : CharSet :=
  ⟨combineFrom (fun a b => a != b) false false s.changes t.changes⟩

/-- The members of a list of sets. -/
def unions (sets : List CharSet) : CharSet := sets.foldl union empty

/-- The set of the given ranges. -/
def ofRanges (ranges : List (Nat × Nat)) : CharSet := unions (ranges.map fun r => range r.1 r.2)

/-- Whether every member is an ASCII character. -/
def isAscii (s : CharSet) : Bool :=
  s.changes.all (· ≤ 128) && !s.contains 128

/-! ## Tables

A table lists the distances between the changes of a set, in hexadecimal, parted by blanks.
-/

/-- The numbers of a table, given the one being read. -/
def readNumbers (current : Option Nat) : List Char → List Nat
  | [] => current.toList
  | ' ' :: cs => current.toList ++ readNumbers none cs
  | c :: cs =>
    let digit := if c.isDigit then c.toNat - 48 else c.toNat - 87
    readNumbers (some (current.getD 0 * 16 + digit)) cs

/-- The running sums of a list of numbers. -/
def sumsFrom (start : Nat) : List Nat → List Nat
  | [] => []
  | n :: ns => (start + n) :: sumsFrom (start + n) ns

/-- The set of a table. -/
def ofTable (table : String) : CharSet := ⟨sumsFrom 0 (readNumbers none table.toList)⟩

end CharSet

end TypedDocs
