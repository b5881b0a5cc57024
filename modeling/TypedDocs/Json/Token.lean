import TypedDocs.Json.Basic
import TypedDocs.Number.Literal

/-!
# Tokens of a JSON text

Punctuation, words, number literals and texts.  A number beyond binary64 and a text with half
a surrogate pair are tokens all the same; what they denote is `none`.
-/

namespace TypedDocs.Json

/-- A token of a JSON text. -/
inductive Token where
  | beginArray
  | endArray
  | beginObject
  | endObject
  | comma
  | colon
  | word (j : Json)
  | text (s : Option String)

namespace Token

/-! ## Texts -/

/-- The value of a hexadecimal digit. -/
def hexDigit? (c : Char) : Option Nat :=
  if '0' ≤ c ∧ c ≤ '9' then some (c.toNat - 48)
  else if 'a' ≤ c ∧ c ≤ 'f' then some (c.toNat - 87)
  else if 'A' ≤ c ∧ c ≤ 'F' then some (c.toNat - 55)
  else none

/-- The value of four hexadecimal digits. -/
def hex4? (a b c d : Char) : Option Nat := do
  return (((← hexDigit? a) * 16 + (← hexDigit? b)) * 16 + (← hexDigit? c)) * 16 + (← hexDigit? d)

/-- The character that a letter stands for after a backslash. -/
def escape? : Char → Option Char
  | '"' => some '"'
  | '\\' => some '\\'
  | '/' => some '/'
  | 'b' => some '\x08'
  | 'f' => some '\x0c'
  | 'n' => some '\n'
  | 'r' => some '\r'
  | 't' => some '\t'
  | _ => none

/-- The characters up to the closing quote, and those after it. -/
def splitQuoted : List Char → Option (List Char × List Char)
  | [] => none
  | '"' :: rest => some ([], rest)
  | '\\' :: c :: rest => (splitQuoted rest).map fun (raw, after) => ('\\' :: c :: raw, after)
  | c :: rest => (splitQuoted rest).map fun (raw, after) => (c :: raw, after)

/-- A 16-bit unit or a character of a text. -/
inductive TextUnit where
  | char (c : Char)
  | unit (n : Nat)

/-- The units of the characters between two quotes; nothing when they are not well formed. -/
def unitsOf : List Char → Option (List TextUnit)
  | [] => some []
  | '\\' :: 'u' :: a :: b :: c :: d :: rest => do
    let n ← hex4? a b c d
    let us ← unitsOf rest
    return .unit n :: us
  | '\\' :: c :: rest => do
    let e ← escape? c
    let us ← unitsOf rest
    return .char e :: us
  | c :: rest =>
    if c.toNat < 0x20 ∨ c = '\\' then none else (unitsOf rest).map (.char c :: ·)

/-- The characters that units spell; nothing when half a surrogate pair stands alone. -/
def joinUnits : List TextUnit → Option (List Char)
  | [] => some []
  | .unit high :: .unit low :: rest =>
    if 0xD800 ≤ high ∧ high < 0xDC00 then
      if 0xDC00 ≤ low ∧ low < 0xE000 then
        (joinUnits rest).map (Char.ofNat (0x10000 + (high - 0xD800) * 0x400 + (low - 0xDC00)) :: ·)
      else none
    else if 0xDC00 ≤ high ∧ high < 0xE000 then none
    else (joinUnits (.unit low :: rest)).map (Char.ofNat high :: ·)
  | .unit n :: rest =>
    if 0xD800 ≤ n ∧ n < 0xE000 then none else (joinUnits rest).map (Char.ofNat n :: ·)
  | .char c :: rest => (joinUnits rest).map (c :: ·)

/-- The token of the characters between two quotes. -/
def ofQuoted? (raw : List Char) : Option Token :=
  (unitsOf raw).map fun us => .text ((joinUnits us).map String.ofList)

/-! ## Words -/

/-- Splits off the leading digits, as values. -/
def takeDigits (cs : List Char) : List Nat × List Char :=
  ((cs.takeWhile Char.isDigit).map fun c => c.toNat - 48, cs.dropWhile Char.isDigit)

/-- The exponent of a number literal, from the character after the digits on. -/
def exponentOf? : List Char → Option (Option Int)
  | [] => some none
  | c :: rest =>
    if c = 'e' ∨ c = 'E' then
      let (negative, rest) := match rest with
        | '-' :: r => (true, r)
        | '+' :: r => (false, r)
        | r => (false, r)
      match takeDigits rest with
      | (d :: ds, []) =>
        let n : Nat := (d :: ds).foldl (fun acc d => acc * 10 + d) 0
        some (some (if negative then -(n : Int) else n))
      | _ => none
    else none

/-- The parts of a number literal: no leading zeros, digits on both sides of a point. -/
def literal? (cs : List Char) : Option NumberLiteral := do
  let (negative, cs) := match cs with
    | '-' :: r => (true, r)
    | r => (false, r)
  let (whole, cs) := takeDigits cs
  if whole.isEmpty || (whole.head? == some 0 && whole.length > 1) then none else
    match cs with
    | '.' :: r =>
      let (fraction, r) := takeDigits r
      if fraction.isEmpty then none else
        return ⟨negative, whole, some fraction, ← exponentOf? r⟩
    | r => return ⟨negative, whole, none, ← exponentOf? r⟩

/-- The characters of words and number literals. -/
def isWordChar (c : Char) : Bool := c.isAlphanum || c == '-' || c == '+' || c == '.'

/-- The token of a word or a number literal. -/
def ofWord? (cs : List Char) : Option Token :=
  if cs = ['n', 'u', 'l', 'l'] then some (.word .null)
  else if cs = ['t', 'r', 'u', 'e'] then some (.word (.bool true))
  else if cs = ['f', 'a', 'l', 's', 'e'] then some (.word (.bool false))
  else (literal? cs).map fun l => .word ((l.toNumber?.map .number).getD .unreadable)

/-! ## Scanning -/

/-- The token of a punctuation character. -/
def ofPunctuation? : Char → Option Token
  | '[' => some .beginArray
  | ']' => some .endArray
  | '\x7b' => some .beginObject
  | '\x7d' => some .endObject
  | ',' => some .comma
  | ':' => some .colon
  | _ => none

/-- The white space between tokens. -/
def isSpace (c : Char) : Bool := c == ' ' || c == '\t' || c == '\n' || c == '\r'

theorem splitQuoted_length {cs raw after : List Char} (h : splitQuoted cs = some (raw, after)) :
    after.length < cs.length := by
  fun_induction splitQuoted cs generalizing raw after with
  | case1 => simp at h
  | case2 rest => simp_all
  | case3 c rest ih =>
    obtain ⟨⟨r, a⟩, hr, he⟩ := Option.map_eq_some_iff.1 h
    have := ih hr
    simp_all
    omega
  | case4 c rest _ _ ih =>
    obtain ⟨⟨r, a⟩, hr, he⟩ := Option.map_eq_some_iff.1 h
    have := ih hr
    simp_all
    omega

theorem dropWhile_length (p : Char → Bool) (cs : List Char) :
    (cs.dropWhile p).length ≤ cs.length :=
  (List.dropWhile_sublist p).length_le

/-- The tokens of a text after those found so far (the last first). -/
def scanFrom (found : List Token) : List Char → Option (List Token)
  | [] => some found.reverse
  | c :: rest =>
    if isSpace c then scanFrom found rest
    else if c = '"' then
      match h : splitQuoted rest with
      | none => none
      | some (raw, after) =>
        have := splitQuoted_length h
        match ofQuoted? raw with
        | none => none
        | some t => scanFrom (t :: found) after
    else match ofPunctuation? c with
      | some t => scanFrom (t :: found) rest
      | none =>
        have := dropWhile_length isWordChar rest
        match ofWord? (c :: rest.takeWhile isWordChar) with
        | none => none
        | some t => scanFrom (t :: found) (rest.dropWhile isWordChar)
termination_by cs => cs.length

/-- The tokens of a text; nothing when some part of it is none. -/
def scan (cs : List Char) : Option (List Token) := scanFrom [] cs

end Token

end TypedDocs.Json
