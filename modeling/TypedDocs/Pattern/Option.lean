/-!
# Options of a pattern

Flags say how a pattern is read, and option letters switch them.  A pattern is refused for a
letter that does not exist, or for its own text.
-/

namespace TypedDocs

/-- Why a pattern cannot be used: an option letter that does not exist, or what is said of its
text. -/
inductive PatternError where
  | unsupportedOption (option : Char)
  | rejected (message : String)
deriving DecidableEq, Repr

/-- The reason in words. -/
def PatternError.describe : PatternError → String
  | .unsupportedOption option => "unsupported option `" ++ String.singleton option ++ "`"
  | .rejected message => message

namespace Pattern

/-- The flags that a pattern can switch. -/
inductive Flag where
  | ignoreCase
  | multiLine
  | dotMatchesNewline
  | swapGreed
  | unicode
  | crlf
  | extended
deriving DecidableEq, Repr

/-- The flag of an option letter. -/
def optionFlag? : Char → Option Flag
  | 'i' => some .ignoreCase
  | 'm' => some .multiLine
  | 's' => some .dotMatchesNewline
  | 'x' => some .extended
  | _ => none

/-- The flags of option letters; the first letter that is none is refused. -/
def optionFlags : List Char → Except PatternError (List Flag)
  | [] => .ok []
  | c :: cs =>
    match optionFlag? c with
    | none => .error (.unsupportedOption c)
    | some f => (optionFlags cs).map (f :: ·)

end Pattern

end TypedDocs
