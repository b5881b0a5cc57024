import TypedDocs.Text.Blank

/-!
# Keys

An attribute is stored under a text made from its name and, when a mixin declares it, the
mixin: `name|mixin`, with a tilde for each dot of the mixin's id.  Reading a stored key splits
it at the first bar:

    parse (wire (.plain n)) = .plain n                  when `n` has no bar  (parse_wire_plain)
    parse (wire (.qualified n m)) = .qualified n m      when besides `m` has no tilde
                                                        (parse_wire_qualified)

Keys that begin with an underscore hold the identity of a document and are not attributes.
-/

namespace TypedDocs

/-- Where an attribute is stored: under its name, or under its name and its mixin. -/
inductive Key where
  | plain (name : String)
  | qualified (name : String) (mixin : String)
deriving DecidableEq, Repr

namespace Key

/-! ## Algorithm -/

/-- Stands between the name and the mixin. -/
def bar : Char := '|'

/-- Stands for a dot of a mixin's id. -/
def tilde : Char := '~'

/-- Begins the keys that are not attributes. -/
def internalMark : Char := '_'

/-- Replaces one character by another. -/
def replaceChar (old new : Char) (cs : List Char) : List Char :=
  cs.map fun c => if c = old then new else c

/-- The characters before the first bar and those after it. -/
def splitBar : List Char → Option (List Char × List Char)
  | [] => none
  | c :: rest =>
    if c = bar then some ([], rest)
    else (splitBar rest).map fun (before, after) => (c :: before, after)

/-- The key that a stored text denotes. -/
def parse (wire : String) : Key :=
  match splitBar wire.toList with
  | none => .plain wire
  | some (name, mixin) =>
    .qualified (String.ofList name) (String.ofList (replaceChar tilde '.' mixin))

/-- The text under which a key is stored. -/
def wire : Key → String
  | .plain name => name
  | .qualified name mixin =>
    String.ofList (name.toList ++ bar :: replaceChar '.' tilde mixin.toList)

/-- The name of the attribute. -/
def name : Key → String
  | .plain name => name
  | .qualified name _ => name

/-- The mixin, of a key that names one. -/
def mixin? : Key → Option String
  | .plain _ => none
  | .qualified _ mixin => some mixin

/-- Whether a stored key names a mixin. -/
def namesMixin (wire : String) : Bool := wire.toList.contains bar

/-- Whether a stored key is not an attribute. -/
def isInternal (wire : String) : Bool := wire.toList.head? == some internalMark

/-- Whether a text may be the id of a classifier or the name of an attribute. -/
def isIdentifier (s : String) : Bool :=
  !Text.isBlankText s && !s.toList.contains bar && !s.toList.contains tilde

/-! ## Lemmas -/

theorem splitBar_eq_none {cs : List Char} (h : bar ∉ cs) : splitBar cs = none := by
  induction cs with
  | nil => rfl
  | cons c rest ih =>
    rw [List.mem_cons, not_or] at h
    rw [splitBar, if_neg (Ne.symm h.1), ih h.2]
    rfl

theorem splitBar_append {before : List Char} (h : bar ∉ before) (after : List Char) :
    splitBar (before ++ bar :: after) = some (before, after) := by
  induction before with
  | nil => simp [splitBar]
  | cons c rest ih =>
    rw [List.mem_cons, not_or] at h
    rw [List.cons_append, splitBar, if_neg (Ne.symm h.1), ih h.2]
    rfl

theorem replaceChar_replaceChar {new : Char} (old : Char) {cs : List Char} (h : new ∉ cs) :
    replaceChar new old (replaceChar old new cs) = cs := by
  induction cs with
  | nil => rfl
  | cons c rest ih =>
    rw [List.mem_cons, not_or] at h
    simp only [replaceChar, List.map_cons, List.map_map] at ih ⊢
    congr 1
    · by_cases hc : c = old
      · simp [hc]
      · simp [hc, Ne.symm h.1]
    · exact ih h.2

theorem parse_wire_plain {name : String} (h : bar ∉ name.toList) :
    parse (wire (.plain name)) = .plain name := by
  simp [wire, parse, splitBar_eq_none h]

theorem parse_wire_qualified {name mixin : String} (h : bar ∉ name.toList)
    (hm : tilde ∉ mixin.toList) :
    parse (wire (.qualified name mixin)) = .qualified name mixin := by
  simp [wire, parse, splitBar_append h, replaceChar_replaceChar '.' hm]

end Key

end TypedDocs
