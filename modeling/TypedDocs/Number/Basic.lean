import TypedDocs.Number.Binary64

/-!
# Numbers

A number is a whole number of the 64-bit ranges or a binary64 number.  Two numbers have the
same value when their binary64 images are equal, so `2 ^ 53` and `2 ^ 53 + 1` do.
-/

namespace TypedDocs

/-- A whole number between `-2 ^ 63` and `2 ^ 64 - 1`, or a binary64 number. -/
inductive Number where
  | integer (value : Int)
  | double (value : Binary64)
deriving DecidableEq, Repr

namespace Number

/-- The nearest binary64 number. -/
def toBinary64 : Number → Binary64
  | .integer i => .ofInt i
  | .double x => x

/-- Equality of the binary64 images. -/
def sameValue (a b : Number) : Bool := a.toBinary64.sameValue b.toBinary64

/-! ## Lemmas -/

theorem sameValue_refl (a : Number) : sameValue a a = true := Binary64.sameValue_refl _

theorem sameValue_comm (a b : Number) : sameValue a b = sameValue b a :=
  Binary64.sameValue_comm _ _

theorem sameValue_trans {a b c : Number} (h₁ : sameValue a b = true)
    (h₂ : sameValue b c = true) : sameValue a c = true :=
  Binary64.sameValue_trans h₁ h₂

end Number

end TypedDocs
