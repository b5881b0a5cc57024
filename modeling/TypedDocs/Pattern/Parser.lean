import TypedDocs.Pattern.Scan
import TypedDocs.Unicode.Word

/-!
# Parsing a pattern

A pattern is read by one pass with a stack of the groups, or inside brackets of the classes,
that are open.  Every step takes at least one character, so there are no more steps than
characters.
-/

namespace TypedDocs.Pattern

/-! ## Classes -/

/-- The class of ASCII characters with a name. -/
def asciiClassOf? (name : String) : Option AsciiClass :=
  match name with
  | "alnum" => some .alnum
  | "alpha" => some .alpha
  | "ascii" => some .ascii
  | "blank" => some .blank
  | "cntrl" => some .cntrl
  | "digit" => some .digit
  | "graph" => some .graph
  | "lower" => some .lower
  | "print" => some .print
  | "punct" => some .punct
  | "space" => some .space
  | "upper" => some .upper
  | "word" => some .word
  | "xdigit" => some .xdigit
  | _ => none

/-- A named class of ASCII characters, from after its opening bracket at `start`. -/
def asciiClass? (start : List Char) : List Char → Option (ClassTerm × List Char)
  | ':' :: rest =>
    let (negated, rest) := match rest with
      | '^' :: r => (true, r)
      | r => (false, r)
    match rest.dropWhile (· != ':') with
    | ':' :: ']' :: left =>
      (asciiClassOf? (String.ofList (rest.takeWhile (· != ':')))).map fun k =>
        (.ascii ⟨start, left⟩ k negated, left)
    | _ => none
  | _ => none

/-- What stands for one character or class inside brackets. -/
def classPrimitive (extended : Bool) : List Char → Reading (Term × List Char)
  | [] => malformed .classUnclosed [] []
  | '\\' :: rest => escape extended ('\\' :: rest) rest
  | c :: rest => .ok (.literal ⟨c, false, ⟨c :: rest, rest⟩⟩, rest)

/-- One character or class inside brackets; an assertion cannot stand there. -/
def classItem (span : Span) : Term → Reading ClassTerm
  | .literal l => .ok (.literal l)
  | .property span query negated => .ok (.property span query negated)
  | .letter span kind negated => .ok (.letter span kind negated)
  | _ => malformed .classEscapeInvalid span.start span.stop

/-- One end of a range. -/
def rangeEnd (span : Span) : Term → Reading Literal
  | .literal l => .ok l
  | _ => malformed .classRangeLiteral span.start span.stop

/-- The first character that is no blank, after at most one hash. -/
def firstVisible? (hashSeen : Bool) : List Char → Option Char
  | [] => none
  | c :: rest =>
    if Text.isBlank c then firstVisible? hashSeen rest
    else if !hashSeen && c == '#' then firstVisible? true rest
    else some c

/-- The character that comes next after a dash. -/
def peek? (extended : Bool) (cs : List Char) : Option Char :=
  if extended then firstVisible? false cs <|> cs.head? else cs.head?

/-- An item inside brackets, or a range of two characters in order; `opened` is the beginning of the
class, which has not ended. -/
def classRange (extended : Bool) (opened : Span) (cs : List Char) :
    Reading (ClassTerm × List Char) := do
  let (first, rest) ← classPrimitive extended cs
  let single (left : List Char) : Reading (ClassTerm × List Char) :=
    (classItem ⟨cs, rest⟩ first).map fun item => (item, left)
  match skip extended rest with
  | [] => malformed .classUnclosed opened.start opened.stop
  | '-' :: after =>
    let next := peek? extended after
    if next == some ']' || next == some '-' then single ('-' :: after)
    else match skip extended after with
      | [] => malformed .classUnclosed opened.start opened.stop
      | upper => do
        let (second, left) ← classPrimitive extended upper
        let low ← rangeEnd ⟨cs, rest⟩ first
        let high ← rangeEnd ⟨upper, left⟩ second
        if low.char ≤ high.char then return (.range low high, left)
        else malformed .classRangeInvalid cs left
  | left => single left

/-- The dashes at the beginning of a class, and the bracket that may stand there; the class begins
at `start`. -/
def leadingLiterals (extended : Bool) (start : List Char) (found : List ClassTerm) :
    Nat → List Char → Reading (List ClassTerm × List Char)
  | fuel + 1, '-' :: rest =>
    let dash : ClassTerm := .literal ⟨'-', false, ⟨'-' :: rest, rest⟩⟩
    match skip extended rest with
    | [] => malformed .classUnclosed start start
    | cs => leadingLiterals extended start (dash :: found) fuel cs
  | _, ']' :: rest =>
    if found.isEmpty then
      match skip extended rest with
      | [] => malformed .classUnclosed start []
      | cs => .ok ([.literal ⟨']', false, ⟨']' :: rest, rest⟩⟩], cs)
    else .ok (found, ']' :: rest)
  | _, cs => .ok (found, cs)

/-- The beginning of a class, from after its bracket at `start`: whether it is negated, its first
items, the last of them first, and what is left. -/
def openClass (extended : Bool) (start cs : List Char) :
    Reading (Bool × List ClassTerm × List Char) :=
  let items (negated : Bool) (cs : List Char) : Reading (Bool × List ClassTerm × List Char) :=
    match cs with
    | [] => malformed .classUnclosed start []
    | cs => (leadingLiterals extended start [] (cs.length + 1) cs).map (negated, ·)
  match skip extended cs with
  | '^' :: rest => items true (skip extended rest)
  | cs => items false cs

/-- An open class, with the text of its beginning, or the left side of an operation inside one. -/
inductive ClassFrame where
  | opened (span : Span) (outer : List ClassTerm) (negated : Bool)
  | operand (op : SetOperation) (left : ClassTerm)

/-- The union of items, the last of them first. -/
def unionOf : List ClassTerm → ClassTerm
  | [] => .empty
  | [t] => t
  | ts => .union ts.reverse

/-- The items read so far as the right side of the operation that waits for it. -/
def operandOf (frames : List ClassFrame) (items : List ClassTerm) : ClassTerm × List ClassFrame :=
  match frames with
  | .operand op left :: rest => (.operation op left (unionOf items), rest)
  | frames => (unionOf items, frames)

/-- The two characters of an operation on classes. -/
def operation? : List Char → Option (SetOperation × List Char)
  | '&' :: '&' :: rest => some (.intersection, rest)
  | '-' :: '-' :: rest => some (.difference, rest)
  | '~' :: '~' :: rest => some (.symmetricDifference, rest)
  | _ => none

/-- The beginning of the innermost class that is open. -/
def innermost (outermost : Span) : List ClassFrame → Span
  | [] => outermost
  | .opened span _ _ :: _ => span
  | .operand _ _ :: frames => innermost outermost frames

/-- The class whose first bracket has been read, in at most `fuel` steps. -/
def parseClass (extended : Bool) (outermost : Span) :
    (fuel : Nat) → List ClassFrame → List ClassTerm → List Char → Reading (Term × List Char)
  | 0, _, _, _ => malformed .classUnclosed outermost.start outermost.stop
  | fuel + 1, frames, items, cs =>
    let opened := innermost outermost frames
    match skip extended cs with
    | [] => malformed .classUnclosed opened.start opened.stop
    | '[' :: rest =>
      let start := '[' :: rest
      match asciiClass? start rest with
      | some (t, left) => parseClass extended outermost fuel frames (t :: items) left
      | none => do
        let (negated, inner, left) ← openClass extended start rest
        let frame : ClassFrame := .opened ⟨start, left⟩ items negated
        parseClass extended outermost fuel (frame :: frames) inner left
    | ']' :: rest =>
      let (term, frames) := operandOf frames items
      match frames with
      | [.opened span _ negated] => .ok (.bracketed ⟨span.start, rest⟩ term negated, rest)
      | .opened span outer negated :: frames =>
        let inner : ClassTerm := .bracketed ⟨span.start, rest⟩ term negated
        parseClass extended outermost fuel frames (inner :: outer) rest
      | _ => malformed .classUnclosed outermost.start outermost.stop
    | cs =>
      match operation? cs with
      | some (op, rest) =>
        let (term, frames) := operandOf frames items
        parseClass extended outermost fuel (.operand op term :: frames) [] rest
      | none => do
        let (t, left) ← classRange extended opened cs
        parseClass extended outermost fuel frames (t :: items) left

/-- A class, from after its first bracket at `start`. -/
def bracketClass (extended : Bool) (start cs : List Char) : Reading (Term × List Char) := do
  let (negated, items, left) ← openClass extended start cs
  let span : Span := ⟨start, left⟩
  parseClass extended span (left.length + 1) [.opened span [] negated] items left

/-! ## Groups -/

/-- An open group, with its bracket, or the branches before the present one. -/
inductive Frame where
  | group (bracket : Span) (before : List Term) (flags : List Switch) (extended : Bool)
  | alternation (branches : List Term)

/-- Where the reading of a pattern stands: the characters left, whether blanks are skipped, the
terms of the present sequence and the open groups, each the last first, and the names of the
groups with the places where they stand. -/
structure Parsing where
  rest : List Char
  extended : Bool
  terms : List Term
  frames : List Frame
  names : List (String × Span)

/-- The sequence of terms, the last of them first. -/
def sequenceOf : List Term → Term
  | [] => .empty
  | [t] => t
  | ts => .sequence ts.reverse

/-- Whether a character may stand in the name of a group, at its beginning or later. -/
def isNameChar (first : Bool) (c : Char) : Bool :=
  if first then c == '_' || Unicode.alphabetic.contains c.toNat
  else c == '_' || c == '.' || c == '[' || c == ']' ||
    Unicode.alphabetic.contains c.toNat || Unicode.numerics.contains c.toNat

/-- The characters of a group's name, up to its closing angle. -/
def nameChars (first : Bool) : List Char → Reading (List Char × List Char)
  | [] => malformed .groupNameUnexpectedEnd [] []
  | '>' :: rest => .ok ([], '>' :: rest)
  | c :: rest => do
    if !isNameChar first c then malformed .groupNameInvalid (c :: rest) rest
    let (cs, left) ← nameChars false rest
    return (c :: cs, left)

/-- The name of a group, up to its closing angle, which no other group has. -/
def groupName (names : List (String × Span)) (cs : List Char) :
    Reading ((String × Span) × List Char) := do
  let (name, left) ← nameChars true cs
  if name.isEmpty then malformed .groupNameEmpty cs cs
  let text := String.ofList name
  let span : Span := ⟨cs, left⟩
  match names.lookup text with
  | some earlier => .error ⟨.groupNameDuplicate, span, some earlier⟩
  | none => return ((text, span), left.drop 1)

/-- The state in which the present sequence is a new group. -/
def enter (p : Parsing) (bracket : Span) (flags : List Switch) (left : List Char) : Parsing :=
  { p with
    rest := left
    extended := (flags.lookup .extended).getD p.extended
    terms := []
    frames := .group bracket p.terms flags p.extended :: p.frames }

/-- Reads the beginning of a group, or flags for the rest of the present one. -/
def openGroup (p : Parsing) (cs : List Char) : Reading Parsing :=
  let start := '(' :: cs
  let bracket : Span := ⟨start, cs⟩
  let named (rest : List Char) : Reading Parsing := do
    let (name, left) ← groupName p.names rest
    return { enter p bracket [] left with names := name :: p.names }
  match skip p.extended cs with
  | '?' :: '=' :: rest | '?' :: '!' :: rest | '?' :: '<' :: '=' :: rest
  | '?' :: '<' :: '!' :: rest => malformed .unsupportedLookAround start rest
  | '?' :: 'P' :: '<' :: rest => named rest
  | '?' :: '<' :: rest => named rest
  | '?' :: [] => malformed .groupUnclosed start cs
  | '?' :: rest => do
    let (switches, closing, left) ← flags [] none false rest
    if closing = ':' then return enter p bracket switches left
    if switches.isEmpty then malformed .repetitionMissing ('?' :: rest) ('?' :: rest)
    return { p with
      rest := left
      extended := (switches.lookup .extended).getD p.extended
      terms := .switches switches :: p.terms }
  | rest => .ok (enter p bracket [] rest)

/-- Reads the end of a group. -/
def closeGroup (p : Parsing) (left : List Char) : Reading Parsing :=
  let close (inner : Term) (before : List Term) (flags : List Switch) (extended : Bool)
      (frames : List Frame) : Parsing :=
    { p with
      rest := left
      extended := extended
      terms := .group flags inner :: before
      frames := frames }
  match p.frames with
  | .group _ before flags extended :: frames =>
    .ok (close (sequenceOf p.terms) before flags extended frames)
  | .alternation branches :: .group _ before flags extended :: frames =>
    let inner := .alternation (sequenceOf p.terms :: branches).reverse
    .ok (close inner before flags extended frames)
  | _ => malformed .groupUnopened (')' :: left) left

/-- Reads the bar between two branches. -/
def nextBranch (p : Parsing) (left : List Char) : Parsing :=
  match p.frames with
  | .alternation branches :: frames =>
    { p with
      rest := left
      terms := []
      frames := .alternation (sequenceOf p.terms :: branches) :: frames }
  | frames =>
    { p with
      rest := left
      terms := []
      frames := .alternation [sequenceOf p.terms] :: frames }

/-! ## Repetitions -/

/-- The last term, which is to be repeated, and those before it; there must be one, and flags are
none. -/
def repeatable (p : Parsing) (operator : List Char) : Reading (Term × List Term) :=
  match p.terms with
  | [] | .empty :: _ | .switches _ :: _ => malformed .repetitionMissing operator operator
  | t :: before => .ok (t, before)

/-- What is left after the question mark that may follow a repetition. -/
def afterGreed : List Char → List Char
  | '?' :: rest => rest
  | left => left

/-- Repeats the last term, by an operator of one character. -/
def repeatLast (p : Parsing) (operator : List Char) (least : Nat) (most : Option Nat) :
    Reading Parsing := do
  let (t, before) ← repeatable p operator
  return { p with
    rest := afterGreed (operator.drop 1)
    terms := .repetition t least most :: before }

/-- The bounds of a counted repetition, from after its brace at `start`, up to the other brace. -/
def countedBounds (extended : Bool) (start cs : List Char) :
    Reading (Nat × Option Nat × List Char) :=
  match skip extended cs with
  | [] => malformed .repetitionCountUnclosed start []
  | cs =>
    let (least, left) := count extended cs
    match left with
    | [] => malformed .repetitionCountUnclosed start []
    | ',' :: left =>
      match skip extended left with
      | [] => malformed .repetitionCountUnclosed start []
      | '\x7d' :: left => do return (← least, none, '\x7d' :: left)
      | left => do
        let least ← least
        let (most, left) := count extended left
        return (least, some (← most), left)
    | left => do
      let least ← least
      return (least, some least, left)

/-- Reads a counted repetition, from after its brace. -/
def repeatCounted (p : Parsing) (cs : List Char) : Reading Parsing := do
  let start := '\x7b' :: cs
  let (t, before) ← repeatable p start
  let (least, most, left) ← countedBounds p.extended start cs
  match left with
  | '\x7d' :: left =>
    let left := afterGreed (skip p.extended left)
    if most.any (· < least) then malformed .repetitionCountInvalid start left
    return { p with rest := left, terms := .repetition t least most :: before }
  | left => malformed .repetitionCountUnclosed start left

/-! ## Patterns -/

/-- Reads the part of a pattern that begins with `c`. -/
def step (p : Parsing) (c : Char) (rest : List Char) : Reading Parsing :=
  let here := c :: rest
  let add (t : Term) (left : List Char) : Parsing := { p with rest := left, terms := t :: p.terms }
  match c with
  | '(' => openGroup p rest
  | ')' => closeGroup p rest
  | '|' => .ok (nextBranch p rest)
  | '[' => (bracketClass p.extended here rest).map fun (t, left) => add t left
  | '?' => repeatLast p here 0 (some 1)
  | '*' => repeatLast p here 0 none
  | '+' => repeatLast p here 1 none
  | '\x7b' => repeatCounted p rest
  | '\\' => (escape p.extended here rest).map fun (t, left) => add t left
  | '.' => .ok (add (.dot ⟨here, rest⟩) rest)
  | '^' => .ok (add (.assertion .lineStart) rest)
  | '$' => .ok (add (.assertion .lineEnd) rest)
  | c => .ok (add (.literal ⟨c, false, ⟨here, rest⟩⟩) rest)

/-- The term of a pattern that has been read to its end. -/
def finish (p : Parsing) : Reading Term :=
  match p.frames with
  | [] => .ok (sequenceOf p.terms)
  | [.alternation branches] => .ok (.alternation (sequenceOf p.terms :: branches).reverse)
  | .group bracket .. :: _ | .alternation _ :: .group bracket .. :: _ =>
    malformed .groupUnclosed bracket.start bracket.stop
  | _ => malformed .groupUnclosed [] []

/-- Reads the rest of a pattern in at most `fuel` steps. -/
def parseFrom : (fuel : Nat) → Parsing → Reading Term
  | 0, p => malformed .groupUnclosed p.rest []
  | fuel + 1, p =>
    match skip p.extended p.rest with
    | [] => finish p
    | c :: rest => step p c rest >>= parseFrom fuel

/-- How deeply a pattern may be nested. -/
def maxDepth : Nat := 250

/-- The term of a pattern; `extended` patterns may hold blanks and comments. -/
def parse (extended : Bool) (pattern : String) : Reading Term := do
  let cs := pattern.toList
  let t ← parseFrom (cs.length + 1) ⟨cs, extended, [], [], []⟩
  if t.depth ≤ maxDepth then return t else malformed (.nestLimitExceeded maxDepth) cs []

end TypedDocs.Pattern
