/-!
# Malformed patterns

What can be wrong with the text of a pattern, and how it is told: the text is repeated with marks
under the part that is wrong, and then the reason is given.
-/

namespace TypedDocs.Pattern

/-- What is wrong with a pattern. -/
inductive Malformation where
  | classEscapeInvalid
  | classRangeInvalid
  | classRangeLiteral
  | classUnclosed
  | decimalInvalid
  | escapeHexEmpty
  | escapeHexInvalid
  | escapeHexInvalidDigit
  | escapeUnexpectedEnd
  | escapeUnrecognized
  | flagDanglingNegation
  | flagDuplicate
  | flagRepeatedNegation
  | flagUnexpectedEnd
  | flagUnrecognized
  | groupNameDuplicate
  | groupNameEmpty
  | groupNameInvalid
  | groupNameUnexpectedEnd
  | groupUnclosed
  | groupUnopened
  | nestLimitExceeded (limit : Nat)
  | repetitionCountDecimalEmpty
  | repetitionCountInvalid
  | repetitionCountUnclosed
  | repetitionMissing
  | wordBoundaryUnclosed
  | wordBoundaryUnrecognized
  | wordBoundaryUnexpectedEnd
  | unicodeClassInvalid
  | unsupportedBackreference
  | unsupportedLookAround
  | unicodeNotAllowed
  | invalidEncoding
  | propertyNotFound
  | propertyValueNotFound
deriving DecidableEq, Repr

/-- The reason in words. -/
def Malformation.describe : Malformation → String
  | .classEscapeInvalid => "invalid escape sequence found in character class"
  | .classRangeInvalid => "invalid character class range, the start must be <= the end"
  | .classRangeLiteral => "invalid range boundary, must be a literal"
  | .classUnclosed => "unclosed character class"
  | .decimalInvalid => "decimal literal invalid"
  | .escapeHexEmpty => "hexadecimal literal empty"
  | .escapeHexInvalid => "hexadecimal literal is not a Unicode scalar value"
  | .escapeHexInvalidDigit => "invalid hexadecimal digit"
  | .escapeUnexpectedEnd => "incomplete escape sequence, reached end of pattern prematurely"
  | .escapeUnrecognized => "unrecognized escape sequence"
  | .flagDanglingNegation => "dangling flag negation operator"
  | .flagDuplicate => "duplicate flag"
  | .flagRepeatedNegation => "flag negation operator repeated"
  | .flagUnexpectedEnd => "expected flag but got end of regex"
  | .flagUnrecognized => "unrecognized flag"
  | .groupNameDuplicate => "duplicate capture group name"
  | .groupNameEmpty => "empty capture group name"
  | .groupNameInvalid => "invalid capture group character"
  | .groupNameUnexpectedEnd => "unclosed capture group name"
  | .groupUnclosed => "unclosed group"
  | .groupUnopened => "unopened group"
  | .nestLimitExceeded limit =>
    "exceed the maximum number of nested parentheses/brackets (" ++ toString limit ++ ")"
  | .repetitionCountDecimalEmpty => "repetition quantifier expects a valid decimal"
  | .repetitionCountInvalid =>
    "invalid repetition count range, the start must be <= the end"
  | .repetitionCountUnclosed => "unclosed counted repetition"
  | .repetitionMissing => "repetition operator missing expression"
  | .wordBoundaryUnclosed =>
    "special word boundary assertion is either unclosed or contains an invalid character"
  | .wordBoundaryUnrecognized =>
    "unrecognized special word boundary assertion, valid choices are: " ++
      "start, end, start-half or end-half"
  | .wordBoundaryUnexpectedEnd =>
    "found either the beginning of a special word boundary or a bounded repetition on a \\b " ++
      "with an opening brace, but no closing brace"
  | .unicodeClassInvalid => "invalid Unicode character class"
  | .unsupportedBackreference => "backreferences are not supported"
  | .unsupportedLookAround =>
    "look-around, including look-ahead and look-behind, is not supported"
  | .unicodeNotAllowed => "Unicode not allowed here"
  | .invalidEncoding => "pattern can match invalid UTF-8"
  | .propertyNotFound => "Unicode property not found"
  | .propertyValueNotFound => "Unicode property value not found"

/-- A part of a pattern: the characters that are left where it begins, and where it ends. -/
structure Span where
  start : List Char
  stop : List Char
deriving DecidableEq, Repr

/-- Why a text is no pattern: what is wrong with which part, and the earlier part that this one
repeats. -/
structure Malformed where
  reason : Malformation
  span : Span
  earlier : Option Span := none
deriving DecidableEq, Repr

/-- What reading a part of a pattern gives. -/
abbrev Reading := Except Malformed

/-- Something is wrong with a part of a pattern. -/
def malformed {α : Type} (reason : Malformation) (start stop : List Char) : Reading α :=
  .error ⟨reason, ⟨start, stop⟩, none⟩

/-! ## The report -/

/-- A place of a pattern by its line and its column, both counted from zero. -/
structure Cursor where
  line : Nat
  column : Nat
deriving DecidableEq, Repr

/-- The place of a pattern where so many characters are left. -/
def cursorOf (pattern left : List Char) : Cursor :=
  let before := pattern.take (pattern.length - left.length)
  ⟨before.count '\n', (before.reverse.takeWhile (· != '\n')).length⟩

/-- So many times a character. -/
def repeated (c : Char) (n : Nat) : String := String.ofList (List.replicate n c)

/-- The marks under some parts of a line, in order of the parts; `column` is reached already. -/
def marks (column : Nat) : List (Nat × Nat) → String
  | [] => ""
  | (start, stop) :: rest =>
    let indent := start - column
    let width := max 1 (stop - start)
    repeated ' ' indent ++ repeated '^' width ++ marks (column + indent + width) rest

/-- The lines of a text; the end of the last one is no beginning of another. -/
def linesOf (text : String) : List String :=
  let pieces := text.splitOn "\n"
  let ended := pieces.dropLast.map fun line =>
    if line.endsWith "\r" then String.ofList line.toList.dropLast else line
  match pieces.getLast? with
  | some "" | none => ended
  | some last => ended ++ [last]

/-- A number at the right end of a field of a width. -/
def padded (width n : Nat) : String :=
  let digits := toString n
  repeated ' ' (width - digits.length) ++ digits

/-- The report on what is wrong with a pattern. -/
def Malformed.report (m : Malformed) (pattern : String) : String :=
  let cs := pattern.toList
  let place (s : Span) : Cursor × Cursor := (cursorOf cs s.start, cursorOf cs s.stop)
  let parts := match m.earlier with
    | none => [place m.span]
    | some earlier => [place earlier, place m.span]
  let several := cs.contains '\n'
  let width := (toString (cs.count '\n' + 1)).length
  let noted (line : String) (i : Nat) : String :=
    let here := parts.filter fun (start, stop) => start.line == i && stop.line == i
    let label := if several then padded width (i + 1) ++ ": " else "    "
    let under := marks 0 (here.map fun (start, stop) => (start.column, stop.column))
    label ++ line ++ "\n" ++
      if here.isEmpty then "" else repeated ' ' label.length ++ under ++ "\n"
  let body := String.join ((linesOf pattern).mapIdx fun i line => noted line i)
  let far := parts.filter fun (start, stop) => start.line != stop.line
  let notes := far.map fun (start, stop) =>
    "on line " ++ toString (start.line + 1) ++ " (column " ++ toString (start.column + 1) ++
      ") through line " ++ toString (stop.line + 1) ++ " (column " ++ toString stop.column ++ ")"
  let framed :=
    if several then
      let rule := repeated '~' 79 ++ "\n"
      rule ++ body ++ rule ++ if notes.isEmpty then "" else "\n".intercalate notes ++ "\n"
    else body
  "regex parse error:\n" ++ framed ++ "error: " ++ m.reason.describe

end TypedDocs.Pattern
