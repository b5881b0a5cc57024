import TypedDocs.Caching.Basic

/-!
# Queries with caches

Queries as they are compared when attributes and compiled patterns are kept.  A function here gives
what the one of its name in `Query` gives (`Caching.agrees_matchValue`).
-/

namespace TypedDocs.Caching

open Query (Verdict sizeOf_get?_lt)

variable {ρ : Type} [Pattern.Engine ρ]

/-! ## Values -/

/-- Whether a value is a text that matches the pattern of a query. -/
def testPattern (query : Layout) (value : Value) : Caching ρ Fault Bool := do
  let p ← compile query
  return value.string?.any (Pattern.Engine.occursIn p)

/-- A key that the class of an embedded object does not have is a miss. -/
def missUndeclared (work : Caching ρ Fault Bool) : Caching ρ Fault Verdict :=
  tryCatch (Verdict.ofBool <$> work) fun
    | .attributeNotFound _ _ => return .miss
    | fault => throw fault

mutual

/-- Compares a value with a query. -/
def matchValue (h : Hierarchy) (full : Bool) (declared : Option String) (value query : Value) :
    Caching ρ Fault Verdict :=
  match value with
  | .array items =>
    match query with
    | .array patterns =>
      if full && items.length != patterns.length then return .miss
      else matchPlaces h full declared items patterns
    | _ => matchAny h full declared 0 items query
  | .object fields =>
    match query with
    | .object wanted =>
      if (Query.pattern? wanted).isSome then return .ofBool (value.sameValue query) else
        match h.embeddedClass declared fields with
        | some c => missUndeclared (matchFields h full c fields wanted)
        | none => return .ofBool (value.sameValue query)
    | _ => return .ofBool (value.sameValue query)
  | _ =>
    match query with
    | .object wanted =>
      if (Query.pattern? wanted).isSome then Verdict.ofBool <$> testPattern wanted value
      else return .ofBool (value.sameValue query)
    | _ => return .ofBool (value.sameValue query)
termination_by (sizeOf value, 0)

/-- Compares the items of an array with patterns, place by place. -/
def matchPlaces (h : Hierarchy) (full : Bool) (declared : Option String)
    (items patterns : List Value) : Caching ρ Fault Verdict :=
  match items, patterns with
  | _, [] => return .hit
  | [], _ :: _ => return .ofBool !full
  | item :: items, p :: patterns => do
    let v ← matchValue h full declared item p
    if full && !v.isHit then return .miss else matchPlaces h full declared items patterns
termination_by (sizeOf items, 0)

/-- Finds the first of the items, from place `index` on, that matches a query. -/
def matchAny (h : Hierarchy) (full : Bool) (declared : Option String) (index : Nat)
    (items : List Value) (query : Value) : Caching ρ Fault Verdict :=
  match items with
  | [] => return .miss
  | item :: items => do
    let v ← matchValue h full declared item query
    if v.isHit then return .hitAt index else matchAny h full declared (index + 1) items query
termination_by (sizeOf items, 0)

/-- Compares the fields of a layout of a class with a query, key by key. -/
def matchFields (h : Hierarchy) (full : Bool) (classId : String) (layout query : Layout) :
    Caching ρ Fault Bool :=
  match query with
  | [] => return true
  | (key, wanted) :: rest =>
    if wanted.isNull then matchFields h full classId layout rest
    else if Key.isInternal key then
      match hv : Keyed.get? layout key with
      | none => return false
      | some value =>
        have := sizeOf_get?_lt hv
        do
          let v ← matchValue h full none value wanted
          if v.isHit then matchFields h full classId layout rest else return false
    else do
      let attr ← resolveKey h classId key
      match hv : Keyed.get? layout attr.wire with
      | none => return false
      | some value =>
        have := sizeOf_get?_lt hv
        let matched ← match attr.type with
          | .bagOf _ => matchBag h full attr.elementClass value wanted
          | _ => Verdict.isHit <$> matchValue h full attr.elementClass value wanted
        if matched then matchFields h full classId layout rest else return false
termination_by (sizeOf layout, query.length)

/-- Compares a bag with a query: every entry asked for must be there and match. -/
def matchBag (h : Hierarchy) (full : Bool) (declared : Option String) (value query : Value) :
    Caching ρ Fault Bool :=
  match value, query with
  | .object bag, .object patterns => matchEntries h full declared bag patterns
  | value, query => return value.sameValue query
termination_by (sizeOf value, 0)

/-- Compares the entries of a bag with patterns, key by key. -/
def matchEntries (h : Hierarchy) (full : Bool) (declared : Option String) (bag patterns : Layout) :
    Caching ρ Fault Bool :=
  match patterns with
  | [] => return true
  | (key, wanted) :: rest =>
    if wanted.isNull then matchEntries h full declared bag rest
    else match hv : Keyed.get? bag key with
      | none => return false
      | some entry =>
        have := sizeOf_get?_lt hv
        do
          let v ← matchValue h full declared entry wanted
          if v.isHit then matchEntries h full declared bag rest else return false
termination_by (sizeOf bag, patterns.length)

end

/-! ## Documents -/

/-- Whether a document is in the scope of a classifier and matches a query in full. -/
def matchDocument (h : Hierarchy) (id : String) (doc : Document) (query : Layout) :
    Caching ρ Fault Bool :=
  if Query.inScope h id doc then matchFields h true id doc query else return false

/-- The documents that match a query in the scope of a classifier; the first fault is the
answer. -/
def matching (h : Hierarchy) (classId : String) (query : Layout) :
    List Document → Caching ρ Fault (List Document)
  | [] => return []
  | doc :: docs => do
    let hit ← matchDocument h classId doc query
    let rest ← matching h classId query docs
    return if hit then doc :: rest else rest

end TypedDocs.Caching
