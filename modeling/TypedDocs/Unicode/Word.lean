import TypedDocs.Unicode.Binary

/-!
# Words and digits

The characters of words are the alphabetic characters, the marks, the decimal digits, the
punctuation that connects, and the two joiners.
-/

namespace TypedDocs.Unicode

/-- The decimal digits. -/
def digits : CharSet := Category.chars .decimalNumber

/-- The decimal digits, the letter numbers and the other numbers. -/
def numerics : CharSet := Category.charsOf Category.numbers

/-- The characters of words. -/
def wordCharacters : CharSet :=
  CharSet.unions
    [alphabetic, Category.charsOf (.decimalNumber :: .connectorPunctuation :: Category.marks),
      BinaryProperty.chars .joinControl]

end TypedDocs.Unicode
