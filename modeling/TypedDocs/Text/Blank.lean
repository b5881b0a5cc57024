/-!
# Blank characters

The characters with the Unicode property White_Space, and the text left when they are
cut off both ends.
-/

namespace TypedDocs.Text

/-- The characters with the Unicode property White_Space. -/
def isBlank (c : Char) : Bool :=
  let n := c.toNat
  (9 ≤ n && n ≤ 13) || n == 0x20 || n == 0x85 || n == 0xA0 || n == 0x1680 ||
    (0x2000 ≤ n && n ≤ 0x200A) || n == 0x2028 || n == 0x2029 || n == 0x202F ||
    n == 0x205F || n == 0x3000

/-- Drops the leading and the trailing blanks of a list of characters. -/
def trimChars (cs : List Char) : List Char :=
  ((cs.dropWhile isBlank).reverse.dropWhile isBlank).reverse

/-- The text without the blanks at its two ends. -/
def trim (s : String) : String := String.ofList (trimChars s.toList)

/-- Whether a text has no character that is not blank. -/
def isBlankText (s : String) : Bool := s.toList.all isBlank

/-- ASCII capitals made small; every other character stays. -/
def asciiLower (s : String) : String := String.ofList (s.toList.map Char.toLower)

end TypedDocs.Text
