import TypedDocs.Pattern.Term
import TypedDocs.Text.Blank

/-!
# Scanning a pattern

The small pieces of a pattern's text: blanks and comments, which an extended pattern may hold
anywhere between two characters, counts, hexadecimal numbers, names, flags, and what follows a
backslash.  Each function takes the characters that are left and returns those after the piece, or
says what is wrong with which part.
-/

namespace TypedDocs.Pattern

/-! ## Blanks -/

/-- Drops blanks and comments, which run from a hash to the end of the line. -/
def skipBlanks (inComment : Bool) : List Char → List Char
  | [] => []
  | c :: rest =>
    if inComment then skipBlanks (c != '\n') rest
    else if Text.isBlank c then skipBlanks false rest
    else if c = '#' then skipBlanks true rest
    else c :: rest

/-- Drops blanks and comments of an extended pattern. -/
def skip (extended : Bool) (cs : List Char) : List Char :=
  if extended then skipBlanks false cs else cs

theorem skipBlanks_length (inComment : Bool) (cs : List Char) :
    (skipBlanks inComment cs).length ≤ cs.length := by
  induction cs generalizing inComment with
  | nil => simp [skipBlanks]
  | cons c rest ih =>
    simp only [skipBlanks, List.length_cons]
    split
    · exact Nat.le_succ_of_le (ih _)
    · split
      · exact Nat.le_succ_of_le (ih _)
      · split
        · exact Nat.le_succ_of_le (ih _)
        · exact Nat.le_refl _

theorem skip_length (extended : Bool) (cs : List Char) :
    (skip extended cs).length ≤ cs.length := by
  unfold skip
  split
  · exact skipBlanks_length false cs
  · exact Nat.le_refl _

/-- The leading characters with a property, blanks dropped after each. -/
def collect (extended : Bool) (p : Char → Bool) : List Char → List Char × List Char
  | [] => ([], [])
  | c :: rest =>
    if p c then
      have := skip_length extended rest
      let (taken, left) := collect extended p (skip extended rest)
      (c :: taken, left)
    else ([], c :: rest)
termination_by cs => cs.length

/-! ## Numbers -/

/-- The number that decimal digits spell. -/
def decimalValue (ds : List Char) : Nat := ds.foldl (fun n d => n * 10 + (d.toNat - 48)) 0

/-- A count of 32 bits with blanks around it, and what is left after it also when it is none. -/
def count (extended : Bool) (cs : List Char) : Reading Nat × List Char :=
  let start := cs.dropWhile Text.isBlank
  let (ds, stop) := collect extended Char.isDigit start
  let n :=
    if ds.isEmpty then malformed .repetitionCountDecimalEmpty start stop
    else if decimalValue ds ≥ Nat.pow 2 32 then malformed .decimalInvalid start stop
    else .ok (decimalValue ds)
  (n, stop.dropWhile Text.isBlank)

/-- Whether a character is a hexadecimal digit. -/
def isHex (c : Char) : Bool :=
  c.isDigit || ('a' ≤ c && c ≤ 'f') || ('A' ≤ c && c ≤ 'F')

/-- The number that hexadecimal digits spell. -/
def hexValue (ds : List Char) : Nat :=
  ds.foldl (fun n d => n * 16 +
    (if d.isDigit then d.toNat - 48 else if 'a' ≤ d then d.toNat - 87 else d.toNat - 55)) 0

/-- Exactly so many hexadecimal digits. -/
def fixedHex (extended : Bool) : Nat → List Char → Reading (List Char × List Char)
  | 0, cs => .ok ([], cs)
  | _ + 1, [] => malformed .escapeUnexpectedEnd [] []
  | n + 1, c :: rest => do
    if !isHex c then malformed .escapeHexInvalidDigit (c :: rest) rest
    let (ds, left) ← fixedHex extended n (skip extended rest)
    return (c :: ds, left)

/-- The character that hexadecimal digits number, which stand in a part of the pattern. -/
def charOf (ds start stop : List Char) : Reading Char :=
  if (hexValue ds).isValidChar then .ok (Char.ofNat (hexValue ds))
  else malformed .escapeHexInvalid start stop

/-- A character by its number, between braces or with `digits` digits, after a backslash and a
letter; `escape` begins at the backslash. -/
def numbered (extended : Bool) (escape : List Char) (digits : Nat) (cs : List Char) :
    Reading (Literal × List Char) :=
  match skip extended cs with
  | [] => malformed .escapeUnexpectedEnd [] []
  | '\x7b' :: rest => do
    let brace := '\x7b' :: rest
    match collect extended isHex (skip extended rest) with
    | (_, []) => malformed .escapeUnexpectedEnd brace []
    | (ds, '\x7d' :: left) =>
      let stop := skip extended left
      if ds.isEmpty then malformed .escapeHexEmpty brace stop
      let c ← charOf ds rest ('\x7d' :: left)
      return (⟨c, false, ⟨escape, stop⟩⟩, stop)
    | (_, other :: left) => malformed .escapeHexInvalidDigit (other :: left) left
  | start => do
    let (ds, stop) ← fixedHex extended digits start
    let c ← charOf ds start stop
    return (⟨c, digits == 2, ⟨escape, stop⟩⟩, stop)

/-! ## After a backslash -/

/-- Splits a name at the first place where a separator stands. -/
def splitAt? (separator : List Char) : List Char → Option (List Char × List Char)
  | [] => none
  | c :: rest =>
    if separator.isPrefixOf (c :: rest) then some ([], (c :: rest).drop separator.length)
    else (splitAt? separator rest).map fun (before, after) => (c :: before, after)

/-- The property that the text between braces asks for, and whether for its opposite. -/
def queryOf (name : List Char) : PropertyQuery × Bool :=
  let valued (parts : List Char × List Char) : PropertyQuery :=
    .valued (String.ofList parts.1) (String.ofList parts.2)
  match splitAt? ['!', '='] name with
  | some parts => (valued parts, true)
  | none =>
    match splitAt? [':'] name <|> splitAt? ['='] name with
    | some parts => (valued parts, false)
    | none => (.named (String.ofList name), false)

/-- A Unicode property: a letter, or a text between braces. -/
def property (extended : Bool) (escape : List Char) (negated : Bool) (cs : List Char) :
    Reading (Term × List Char) :=
  match skip extended cs with
  | [] => malformed .escapeUnexpectedEnd [] []
  | '\x7b' :: rest =>
    match collect extended (· != '\x7d') (skip extended rest) with
    | (name, '\x7d' :: left) =>
      let (query, opposite) := queryOf name
      .ok (.property ⟨escape, left⟩ query (negated != opposite), left)
    | _ => malformed .escapeUnexpectedEnd [] []
  | c :: rest =>
    if c = '\\' then malformed .unicodeClassInvalid (c :: rest) rest
    else
      let left := skip extended rest
      .ok (.property ⟨escape, left⟩ (.named (String.singleton c)) negated, left)

/-- The word boundary with a name. -/
def namedBoundary? (name : List Char) : Option Assertion :=
  match String.ofList name with
  | "start" => some .wordStart
  | "end" => some .wordEnd
  | "start-half" => some .wordStartHalf
  | "end-half" => some .wordEndHalf
  | _ => none

/-- A word boundary: plain, or with a name between braces, which begins like no count. -/
def boundary (extended : Bool) (escape cs : List Char) : Reading (Assertion × List Char) :=
  let isNameChar (c : Char) : Bool := c.isAlpha || c == '-'
  match cs with
  | '\x7b' :: rest =>
    match skip extended rest with
    | [] => malformed .wordBoundaryUnexpectedEnd escape []
    | body =>
      match collect extended isNameChar body with
      | ([], _) => .ok (.wordBoundary, cs)
      | (name, '\x7d' :: left) =>
        match namedBoundary? name with
        | some a => .ok (a, left)
        | none => malformed .wordBoundaryUnrecognized body ('\x7d' :: left)
      | (_, left) => malformed .wordBoundaryUnclosed cs left
  | _ => .ok (.wordBoundary, cs)

/-- Whether a character stands for itself after a backslash: the ASCII characters that are
neither letters nor digits nor angle brackets. -/
def isEscapable (c : Char) : Bool :=
  c.toNat < 128 && !c.isAlphanum && c != '<' && c != '>'

/-- What a backslash and the characters after it denote. -/
def escape (extended : Bool) (start : List Char) : List Char → Reading (Term × List Char)
  | [] => malformed .escapeUnexpectedEnd start []
  | c :: rest =>
    let span : Span := ⟨start, rest⟩
    let char (c : Char) : Reading (Term × List Char) := .ok (.literal ⟨c, false, span⟩, rest)
    let number (digits : Nat) : Reading (Term × List Char) :=
      (numbered extended start digits rest).map fun (l, left) => (.literal l, left)
    match c with
    | 'x' => number 2
    | 'u' => number 4
    | 'U' => number 8
    | 'p' => property extended start false rest
    | 'P' => property extended start true rest
    | 'd' => .ok (.letter span .digit false, rest)
    | 'D' => .ok (.letter span .digit true, rest)
    | 's' => .ok (.letter span .space false, rest)
    | 'S' => .ok (.letter span .space true, rest)
    | 'w' => .ok (.letter span .word false, rest)
    | 'W' => .ok (.letter span .word true, rest)
    | 'a' => char '\x07'
    | 'f' => char '\x0c'
    | 't' => char '\t'
    | 'n' => char '\n'
    | 'r' => char '\r'
    | 'v' => char '\x0b'
    | 'A' => .ok (.assertion .textStart, rest)
    | 'z' => .ok (.assertion .textEnd, rest)
    | 'b' => (boundary extended start rest).map fun (a, left) => (.assertion a, left)
    | 'B' => .ok (.assertion .notWordBoundary, rest)
    | '<' => .ok (.assertion .wordStart, rest)
    | '>' => .ok (.assertion .wordEnd, rest)
    | c =>
      if c.isDigit then malformed .unsupportedBackreference start rest
      else if isEscapable c then char c
      else malformed .escapeUnrecognized start rest

/-! ## Flags -/

/-- The flag of a letter. -/
def flagOf? : Char → Option Flag
  | 'i' => some .ignoreCase
  | 'm' => some .multiLine
  | 's' => some .dotMatchesNewline
  | 'U' => some .swapGreed
  | 'u' => some .unicode
  | 'R' => some .crlf
  | 'x' => some .extended
  | _ => none

/-- Flags up to a colon or a closing bracket: each once, those after a dash switched off.  `dash` is
where the dash stands, if it has come, and `dangling` that nothing has come after it.  Returns the
flags with the closing character. -/
def flags (found : List (Switch × Span)) (dash : Option Span) (dangling : Bool) :
    List Char → Reading (List Switch × Char × List Char)
  | [] => malformed .flagUnexpectedEnd [] []
  | c :: rest =>
    let here : Span := ⟨c :: rest, rest⟩
    if c = ':' || c = ')' then
      match dangling, dash with
      | true, some span => .error { reason := .flagDanglingNegation, span }
      | _, _ => .ok ((found.map Prod.fst).reverse, c, rest)
    else if c = '-' then
      match dash with
      | some earlier => .error ⟨.flagRepeatedNegation, here, some earlier⟩
      | none => flags found (some here) true rest
    else
      match flagOf? c with
      | none => malformed .flagUnrecognized (c :: rest) rest
      | some f =>
        match found.find? fun known => known.1.1 == f with
        | some known => .error ⟨.flagDuplicate, here, some known.2⟩
        | none => flags (((f, dash.isNone), here) :: found) dash false rest

end TypedDocs.Pattern
