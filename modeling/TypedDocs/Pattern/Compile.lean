import TypedDocs.Pattern.Parser
import TypedDocs.Pattern.Place
import TypedDocs.Pattern.Property
import TypedDocs.Unicode.Fold

/-!
# From terms to expressions

The flags give a term its meaning: what case, lines and the dot stand for, and whether classes
range over all characters.  Where the flag `u` is off they range over bytes, and since a text
is not a sequence of bytes, whatever could take a byte that is no ASCII character is refused.
-/

namespace TypedDocs.Pattern

/-- The state of the flags at a place of a pattern. -/
structure Flags where
  ignoreCase : Bool
  multiLine : Bool
  dotMatchesNewline : Bool
  unicode : Bool
  crlf : Bool
deriving DecidableEq, Repr

namespace Flags

/-- Switches one flag; those on greed and blanks do not bear on what a pattern means. -/
def switch (f : Flags) : Switch → Flags
  | (.ignoreCase, on) => { f with ignoreCase := on }
  | (.multiLine, on) => { f with multiLine := on }
  | (.dotMatchesNewline, on) => { f with dotMatchesNewline := on }
  | (.unicode, on) => { f with unicode := on }
  | (.crlf, on) => { f with crlf := on }
  | (.swapGreed, _) | (.extended, _) => f

/-- Switches several flags. -/
def switchAll (f : Flags) (switches : List Switch) : Flags := switches.foldl switch f

end Flags

/-! ## Classes -/

/-- The ASCII characters of a named class. -/
def AsciiClass.chars : AsciiClass → CharSet
  | .alnum => .ofRanges [(48, 57), (65, 90), (97, 122)]
  | .alpha => .ofRanges [(65, 90), (97, 122)]
  | .ascii => .range 0 127
  | .blank => .ofRanges [(9, 9), (32, 32)]
  | .cntrl => .ofRanges [(0, 31), (127, 127)]
  | .digit => .range 48 57
  | .graph => .range 33 126
  | .lower => .range 97 122
  | .print => .range 32 126
  | .punct => .ofRanges [(33, 47), (58, 64), (91, 96), (123, 126)]
  | .space => .ofRanges [(9, 13), (32, 32)]
  | .upper => .range 65 90
  | .word => .ofRanges [(48, 57), (65, 90), (95, 95), (97, 122)]
  | .xdigit => .ofRanges [(48, 57), (65, 70), (97, 102)]

/-- The blanks as a set. -/
def blanks : CharSet :=
  .ofRanges [(9, 13), (0x20, 0x20), (0x85, 0x85), (0xA0, 0xA0), (0x1680, 0x1680),
    (0x2000, 0x200A), (0x2028, 0x2029), (0x202F, 0x202F), (0x205F, 0x205F), (0x3000, 0x3000)]

/-- The characters of a class named by a letter. -/
def LetterClass.chars (unicode : Bool) : LetterClass → CharSet
  | .digit => if unicode then Unicode.digits else AsciiClass.digit.chars
  | .space => if unicode then blanks else AsciiClass.space.chars
  | .word => if unicode then Unicode.wordCharacters else AsciiClass.word.chars

/-- Closes a set under case where case is ignored. -/
def foldSet (f : Flags) (s : CharSet) : CharSet :=
  if f.ignoreCase then if f.unicode then s.foldCase else s.foldAsciiCase else s

/-- A part of a pattern does not have the meaning that the flags ask for. -/
def Span.malformed {α : Type} (span : Span) (reason : Malformation) : Reading α :=
  .error { reason, span }

/-- The opposite of a set, if asked for; a set of bytes has none. -/
def negateSet (f : Flags) (span : Span) (negated : Bool) (s : CharSet) : Reading CharSet :=
  if negated then if f.unicode then .ok s.complement else span.malformed .invalidEncoding
  else .ok s

/-- The number of a character inside brackets; among bytes it must be an ASCII character. -/
def literalNumber (f : Flags) (l : Literal) : Reading Nat :=
  if f.unicode || l.char.toNat < 128 then .ok l.char.toNat
  else l.span.malformed (if l.byte then .invalidEncoding else .unicodeNotAllowed)

/-- The characters of a property. -/
def propertyChars (f : Flags) (span : Span) (query : PropertyQuery) (negated : Bool) :
    Reading CharSet :=
  if f.unicode then
    match query.chars with
    | .ok s => negateSet f span negated (foldSet f s)
    | .error reason => span.malformed reason
  else span.malformed .unicodeNotAllowed

/-- The characters of a class named by a letter; these are closed under case. -/
def letterChars (f : Flags) (span : Span) (kind : LetterClass) (negated : Bool) :
    Reading CharSet :=
  negateSet f span negated (kind.chars f.unicode)

/-- The result of an operation on sets. -/
def SetOperation.apply : SetOperation → CharSet → CharSet → CharSet
  | .intersection => CharSet.intersection
  | .difference => CharSet.difference
  | .symmetricDifference => CharSet.symmetricDifference

mutual

/-- The characters of a class, before those of the other case. -/
def ClassTerm.chars (f : Flags) : ClassTerm → Reading CharSet
  | .empty => .ok .empty
  | .literal l => (literalNumber f l).map .singleton
  | .range low high => do return .range (← literalNumber f low) (← literalNumber f high)
  | .ascii span kind negated => negateSet f span negated (foldSet f kind.chars)
  | .property span query negated => propertyChars f span query negated
  | .letter span kind negated => letterChars f span kind negated
  | .bracketed span t negated => do negateSet f span negated (foldSet f (← t.chars f))
  | .union ts => ClassTerm.unionChars f ts
  | .operation op left right => do
    let l ← left.chars f
    let r ← right.chars f
    return op.apply (foldSet f l) (foldSet f r)

/-- The characters of any of several classes. -/
def ClassTerm.unionChars (f : Flags) : List ClassTerm → Reading CharSet
  | [] => .ok .empty
  | t :: ts => do return (← t.chars f).union (← ClassTerm.unionChars f ts)

end

/-! ## Terms -/

/-- Expressions over sets of characters. -/
abbrev CharExpression := Expression CharSet Check

/-- The set of a character. -/
def literalChars (f : Flags) (l : Literal) : Reading CharSet :=
  let n := l.char.toNat
  if f.unicode || n < 128 then .ok (foldSet f (.singleton n))
  else if l.byte then l.span.malformed .invalidEncoding
  else if f.ignoreCase then l.span.malformed .unicodeNotAllowed
  else .ok (.singleton n)

/-- The set of the dot. -/
def dotChars (f : Flags) (span : Span) : Reading CharSet :=
  if !f.unicode then span.malformed .invalidEncoding
  else if f.dotMatchesNewline then .ok CharSet.empty.complement
  else if f.crlf then .ok (CharSet.ofRanges [(10, 10), (13, 13)]).complement
  else .ok (CharSet.singleton 10).complement

/-- The condition of an assertion. -/
def Assertion.check (f : Flags) : Assertion → Check
  | .lineStart => if f.multiLine then .lineStart f.crlf else .textStart
  | .lineEnd => if f.multiLine then .lineEnd f.crlf else .textEnd
  | .textStart => .textStart
  | .textEnd => .textEnd
  | .wordBoundary => .wordBoundary !f.unicode
  | .notWordBoundary => .notWordBoundary !f.unicode
  | .wordStart => .wordStart !f.unicode
  | .wordEnd => .wordEnd !f.unicode
  | .wordStartHalf => .wordStartHalf !f.unicode
  | .wordEndHalf => .wordEndHalf !f.unicode

mutual

/-- The expression of a term, and the flags that hold after it. -/
def Term.compile (f : Flags) : Term → Reading (CharExpression × Flags)
  | .empty => .ok (.empty, f)
  | .switches flags => .ok (.empty, f.switchAll flags)
  | .literal l => do return (.step (← literalChars f l), f)
  | .dot span => do return (.step (← dotChars f span), f)
  | .assertion a => .ok (.check (a.check f), f)
  | .property span query negated => do return (.step (← propertyChars f span query negated), f)
  | .letter span kind negated => do return (.step (← letterChars f span kind negated), f)
  | .bracketed span t negated => do
    return (.step (← negateSet f span negated (foldSet f (← t.chars f))), f)
  | .repetition t least most => do
    let (e, f) ← t.compile f
    return (.repetition e least most, f)
  | .group flags t => do
    let (e, _) ← t.compile (f.switchAll flags)
    return (e, f)
  | .alternation ts => Term.branches f ts
  | .sequence ts => Term.sequenced f ts

/-- The expression of terms one after the other. -/
def Term.sequenced (f : Flags) : List Term → Reading (CharExpression × Flags)
  | [] => .ok (.empty, f)
  | t :: ts => do
    let (e, f) ← t.compile f
    let (es, f) ← Term.sequenced f ts
    return (.sequence e es, f)

/-- The expression of a choice of terms. -/
def Term.branches (f : Flags) : List Term → Reading (CharExpression × Flags)
  | [] => .ok (.step .empty, f)
  | t :: ts => do
    let (e, f) ← t.compile f
    let (es, f) ← Term.branches f ts
    return (.choice e es, f)

end

end TypedDocs.Pattern
