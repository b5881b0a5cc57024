import TypedDocs.Json.Token

/-!
# Reading a JSON text

A text is read by one pass over its tokens with a stack of the containers that are open, so
the nesting of the text costs no recursion.  A container that more than `maxNesting` others
and itself keep open is unreadable.
-/

namespace TypedDocs.Json

/-- How many containers may be open at once. -/
def maxNesting : Nat := 127

/-- An open container: what it holds so far, the last first. -/
inductive Frame where
  | array (items : List Json)
  | object (members : List (Option String × Json))
  | member (members : List (Option String × Json)) (key : Option String)

/-- What may come next. -/
inductive Expected where
  | value
  | firstItem
  | firstKey
  | key
  | colon
  | separator
  | done (j : Json)

/-- The open containers, the innermost first, and what may come next. -/
structure Reading where
  stack : List Frame
  expected : Expected

namespace Reading

/-! ## Algorithm -/

/-- The start of a text. -/
def start : Reading := ⟨[], .value⟩

/-- Puts a finished node into the innermost container. -/
def put (stack : List Frame) (j : Json) : Option Reading :=
  match stack with
  | [] => some ⟨[], .done j⟩
  | .array items :: rest => some ⟨.array (j :: items) :: rest, .separator⟩
  | .member members key :: rest => some ⟨.object ((key, j) :: members) :: rest, .separator⟩
  | .object _ :: _ => none

/-- The node of a closed container that is the `depth`-th of the open ones. -/
def close (depth : Nat) (frame : Frame) : Json :=
  if depth > maxNesting then .unreadable else
    match frame with
    | .array items => .array items.reverse
    | .member _ _ => .unreadable
    | .object members =>
      match members.reverse.mapM fun (key, j) => key.map (·, j) with
      | some entries => .object entries
      | none => .unreadable

/-- Reads the beginning of a value. -/
def beginValue (stack : List Frame) : Token → Option Reading
  | .word j => put stack j
  | .text s => put stack ((s.map .string).getD .unreadable)
  | .beginArray => some ⟨.array [] :: stack, .firstItem⟩
  | .beginObject => some ⟨.object [] :: stack, .firstKey⟩
  | _ => none

/-- Reads one token. -/
def step (r : Reading) (t : Token) : Option Reading :=
  match r.expected, r.stack, t with
  | .value, stack, t => beginValue stack t
  | .firstItem, frame :: stack, .endArray => put stack (close (stack.length + 1) frame)
  | .firstItem, stack, t => beginValue stack t
  | .firstKey, frame :: stack, .endObject => put stack (close (stack.length + 1) frame)
  | .firstKey, .object members :: stack, .text key => some ⟨.member members key :: stack, .colon⟩
  | .key, .object members :: stack, .text key => some ⟨.member members key :: stack, .colon⟩
  | .colon, stack, .colon => some ⟨stack, .value⟩
  | .separator, .array items :: stack, .comma => some ⟨.array items :: stack, .value⟩
  | .separator, .object members :: stack, .comma => some ⟨.object members :: stack, .key⟩
  | .separator, .array items :: stack, .endArray =>
    put stack (close (stack.length + 1) (.array items))
  | .separator, .object members :: stack, .endObject =>
    put stack (close (stack.length + 1) (.object members))
  | _, _, _ => none

end Reading

/-- The tree of a text; nothing when the text is not well formed. -/
def parse? (text : String) : Option Json := do
  let tokens ← Token.scan text.toList
  let r ← tokens.foldlM Reading.step Reading.start
  match r.expected with
  | .done j => some j
  | _ => none

end TypedDocs.Json
