import TypedDocs.Pattern.Malformed
import TypedDocs.Pattern.Option

/-!
# Terms of a pattern

The form of a search pattern as it is written: what stands beside, over and inside what, before
flags and character tables give it a meaning.  A part that its meaning can make wrong knows where it
stands in the text.
-/

namespace TypedDocs.Pattern

/-- A flag with the state it is switched to. -/
abbrev Switch := Flag × Bool

/-- The classes that a letter after a backslash names. -/
inductive LetterClass where
  | digit
  | space
  | word
deriving DecidableEq, Repr

/-- The classes of ASCII characters that have a name between colons. -/
inductive AsciiClass where
  | alnum
  | alpha
  | ascii
  | blank
  | cntrl
  | digit
  | graph
  | lower
  | print
  | punct
  | space
  | upper
  | word
  | xdigit
deriving DecidableEq, Repr

/-- A Unicode property as it is asked for: by a letter, by a name, or by a name and a value. -/
inductive PropertyQuery where
  | named (name : String)
  | valued (name : String) (value : String)
deriving DecidableEq, Repr

/-- A character of a pattern; `byte` when it is written with two hexadecimal digits. -/
structure Literal where
  char : Char
  byte : Bool
  span : Span
deriving DecidableEq, Repr

/-- Conditions on a place of the text. -/
inductive Assertion where
  | lineStart
  | lineEnd
  | textStart
  | textEnd
  | wordBoundary
  | notWordBoundary
  | wordStart
  | wordEnd
  | wordStartHalf
  | wordEndHalf
deriving DecidableEq, Repr

/-- The operations on two classes. -/
inductive SetOperation where
  | intersection
  | difference
  | symmetricDifference
deriving DecidableEq, Repr

/-- What stands between the brackets of a class. -/
inductive ClassTerm where
  | empty
  | literal (c : Literal)
  | range (low high : Literal)
  | ascii (span : Span) (kind : AsciiClass) (negated : Bool)
  | property (span : Span) (query : PropertyQuery) (negated : Bool)
  | letter (span : Span) (kind : LetterClass) (negated : Bool)
  | bracketed (span : Span) (term : ClassTerm) (negated : Bool)
  | union (terms : List ClassTerm)
  | operation (op : SetOperation) (left right : ClassTerm)
deriving Repr

/-- A pattern as it is written. -/
inductive Term where
  | empty
  | switches (flags : List Switch)
  | literal (c : Literal)
  | dot (span : Span)
  | assertion (a : Assertion)
  | property (span : Span) (query : PropertyQuery) (negated : Bool)
  | letter (span : Span) (kind : LetterClass) (negated : Bool)
  | bracketed (span : Span) (term : ClassTerm) (negated : Bool)
  | repetition (term : Term) (least : Nat) (most : Option Nat)
  | group (flags : List Switch) (term : Term)
  | alternation (branches : List Term)
  | sequence (terms : List Term)
deriving Repr

/-! ## Nesting -/

mutual

/-- How deeply a class term is nested. -/
def ClassTerm.depth : ClassTerm → Nat
  | .bracketed _ t _ => t.depth + 1
  | .union ts => ClassTerm.depths ts + 1
  | .operation _ l r => max l.depth r.depth + 1
  | _ => 0

/-- The greatest depth of a list of class terms. -/
def ClassTerm.depths : List ClassTerm → Nat
  | [] => 0
  | t :: ts => max t.depth (ClassTerm.depths ts)

end

mutual

/-- How deeply a term is nested. -/
def Term.depth : Term → Nat
  | .bracketed _ t _ => t.depth + 1
  | .repetition t _ _ => t.depth + 1
  | .group _ t => t.depth + 1
  | .alternation ts => Term.depths ts + 1
  | .sequence ts => Term.depths ts + 1
  | _ => 0

/-- The greatest depth of a list of terms. -/
def Term.depths : List Term → Nat
  | [] => 0
  | t :: ts => max t.depth (Term.depths ts)

end

end TypedDocs.Pattern
