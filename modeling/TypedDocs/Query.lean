import TypedDocs.Hierarchy.Typing
import TypedDocs.Pattern.Engine

/-!
# Queries

A query is an object of values to be found in a layout, its keys read for a class.  `null`
asks for nothing; an object with a text under `$regex` asks a text to match a pattern; an array
is compared place by place, anything else with the items of an array until one matches; an
embedded object is queried in its turn, for its own class.

A *full* match compares arrays of one length only and in every place; otherwise the places of
an array are looked at and never fail.
-/

namespace TypedDocs.Query

variable {ρ : Type} [Pattern.Engine ρ]

/-! ## Results -/

/-- What comparing a value with a query gives: nothing, a match, or a match of one item. -/
inductive Verdict where
  | miss
  | hit
  | hitAt (index : Nat)
deriving DecidableEq, Repr

namespace Verdict

/-- The verdict of a plain comparison. -/
def ofBool (b : Bool) : Verdict := if b then .hit else .miss

/-- Whether there is a match. -/
def isHit : Verdict → Bool
  | .miss => false
  | _ => true

/-- The place of the item that matched. -/
def index? : Verdict → Option Nat
  | .hitAt i => some i
  | _ => none

end Verdict

/-! ## Patterns -/

/-- The key of a search pattern in a query. -/
def patternKey : String := "$regex"

/-- The key of the options of a search pattern. -/
def optionsKey : String := "$options"

/-- The search pattern and the options of an object that holds one. -/
def pattern? (query : Layout) : Option (String × String) :=
  (query.get? patternKey).bind Value.string? |>.map fun p =>
    (p, ((query.get? optionsKey).bind Value.string?).getD "")

/-- Whether a value is a text that matches a pattern. -/
def testPattern (pattern options : String) (value : Value) : Except Fault Bool :=
  match Pattern.compile pattern options with
  | .error reason => .error (.invalidPattern pattern reason)
  | .ok p => .ok (value.string?.any (Pattern.Engine.occursIn p))

/-! ## Matching -/

theorem sizeOf_get?_lt {fields : Layout} {key : String} {v : Value}
    (h : fields.get? key = some v) : sizeOf v < sizeOf fields := by
  induction fields with
  | nil => simp at h
  | cons e rest ih =>
    obtain ⟨k, w⟩ := e
    simp only [Keyed.get?] at h
    split at h
    · cases h
      simp only [List.cons.sizeOf_spec, Prod.mk.sizeOf_spec]
      omega
    · have := ih h
      simp only [List.cons.sizeOf_spec]
      omega

/-- A key that the class of an embedded object does not have is a miss. -/
def missUndeclared : Except Fault Bool → Except Fault Verdict
  | .ok b => .ok (.ofBool b)
  | .error (.attributeNotFound _ _) => .ok .miss
  | .error fault => .error fault

mutual

/-- Compares a value with a query; an embedded object is of the class `declared`, or of a
subclass that it names. -/
def matchValue (h : Hierarchy) (full : Bool) (declared : Option String) (value query : Value) :
    Except Fault Verdict :=
  match value with
  | .array items =>
    match query with
    | .array patterns =>
      if full && items.length != patterns.length then .ok .miss
      else matchPlaces h full declared items patterns
    | _ => matchAny h full declared 0 items query
  | .object fields =>
    match query with
    | .object wanted =>
      if (pattern? wanted).isSome then .ok (.ofBool (value.sameValue query)) else
        match h.embeddedClass declared fields with
        | some c => missUndeclared (matchFields h full c fields wanted)
        | none => .ok (.ofBool (value.sameValue query))
    | _ => .ok (.ofBool (value.sameValue query))
  | _ =>
    match query with
    | .object wanted =>
      match pattern? wanted with
      | some (pattern, options) => (testPattern pattern options value).map .ofBool
      | none => .ok (.ofBool (value.sameValue query))
    | _ => .ok (.ofBool (value.sameValue query))
termination_by (sizeOf value, 0)

/-- Compares the items of an array with patterns, place by place. -/
def matchPlaces (h : Hierarchy) (full : Bool) (declared : Option String)
    (items patterns : List Value) : Except Fault Verdict :=
  match items, patterns with
  | _, [] => .ok .hit
  | [], _ :: _ => .ok (.ofBool !full)
  | item :: items, p :: patterns => do
    let v ← matchValue h full declared item p
    if full && !v.isHit then .ok .miss else matchPlaces h full declared items patterns
termination_by (sizeOf items, 0)

/-- Finds the first of the items, from place `index` on, that matches a query. -/
def matchAny (h : Hierarchy) (full : Bool) (declared : Option String) (index : Nat)
    (items : List Value) (query : Value) : Except Fault Verdict :=
  match items with
  | [] => .ok .miss
  | item :: items => do
    let v ← matchValue h full declared item query
    if v.isHit then .ok (.hitAt index) else matchAny h full declared (index + 1) items query
termination_by (sizeOf items, 0)

/-- Compares the fields of a layout of a class with a query, key by key. -/
def matchFields (h : Hierarchy) (full : Bool) (classId : String) (layout query : Layout) :
    Except Fault Bool :=
  match query with
  | [] => .ok true
  | (key, wanted) :: rest =>
    if wanted.isNull then matchFields h full classId layout rest
    else if Key.isInternal key then
      match hv : Keyed.get? layout key with
      | none => .ok false
      | some value =>
        have := sizeOf_get?_lt hv
        do
          let v ← matchValue h full none value wanted
          if v.isHit then matchFields h full classId layout rest else .ok false
    else do
      let attr ← h.resolveKey classId key
      match hv : Keyed.get? layout attr.wire with
      | none => .ok false
      | some value =>
        have := sizeOf_get?_lt hv
        let matched ← match attr.type with
          | .bagOf _ => matchBag h full attr.elementClass value wanted
          | _ => (matchValue h full attr.elementClass value wanted).map Verdict.isHit
        if matched then matchFields h full classId layout rest else .ok false
termination_by (sizeOf layout, query.length)

/-- Compares a bag with a query: every entry asked for must be there and match. -/
def matchBag (h : Hierarchy) (full : Bool) (declared : Option String) (value query : Value) :
    Except Fault Bool :=
  match value, query with
  | .object bag, .object patterns => matchEntries h full declared bag patterns
  | value, query => .ok (value.sameValue query)
termination_by (sizeOf value, 0)

/-- Compares the entries of a bag with patterns, key by key. -/
def matchEntries (h : Hierarchy) (full : Bool) (declared : Option String) (bag patterns : Layout) :
    Except Fault Bool :=
  match patterns with
  | [] => .ok true
  | (key, wanted) :: rest =>
    if wanted.isNull then matchEntries h full declared bag rest
    else match hv : Keyed.get? bag key with
      | none => .ok false
      | some entry =>
        have := sizeOf_get?_lt hv
        do
          let v ← matchValue h full declared entry wanted
          if v.isHit then matchEntries h full declared bag rest else .ok false
termination_by (sizeOf bag, patterns.length)

end

/-! ## Documents -/

/-- Whether a document is in the scope of a classifier: of a class when its own class extends
it; of a mixin when besides the mixin, or one that extends it, is applied. -/
def inScope (h : Hierarchy) (id : String) (doc : Document) : Bool :=
  if h.isMixin id then
    match h.concreteClass id with
    | .error _ => false
    | .ok base =>
      h.isSubtype (Document.className doc) base &&
        (Document.mixins doc).any fun m => h.isSubtype m id
  else h.isSubtype (Document.className doc) id

/-- Whether a document is in the scope of a classifier and matches a query in full. -/
def matchDocument (h : Hierarchy) (id : String) (doc : Document) (query : Layout) :
    Except Fault Bool :=
  if inScope h id doc then matchFields h true id doc query else .ok false

end TypedDocs.Query
