import TypedDocs.Proofs.Query.Faults

/-!
# Values without their payload

The payload of a value is every truth value, number and text in it, and where there is none, unless
it stands under an internal key.  What a *redacted* value keeps are its arrays, its objects with
their keys, and what stands under internal keys, which are ids and classes.

The *names* of a value are its keys, each with the attribute and the mixin that it is read as, and
the texts under its internal keys.  They are no payload:

    names internal (redact internal value) = names internal value                    (names_redact)
-/

namespace TypedDocs

/-! ## Definitions -/

/-- A key, and the attribute and the mixin that it is read as. -/
def Key.parts (key : String) : List String :=
  key :: (Key.parse key).name :: (Key.parse key).mixin?.toList

namespace Value

mutual

/-- The value without its payload; `internal` says that it stands under an internal key. -/
def redact (internal : Bool) : Value → Value
  | .array items => .array (redactItems internal items)
  | .object fields => .object (redactFields fields)
  | value => if internal then value else .null

/-- The items without their payload. -/
def redactItems (internal : Bool) : List Value → List Value
  | [] => []
  | v :: vs => redact internal v :: redactItems internal vs

/-- The fields without their payload. -/
def redactFields : List (String × Value) → List (String × Value)
  | [] => []
  | (key, v) :: fs => (key, redact (Key.isInternal key) v) :: redactFields fs

end

mutual

/-- The names in a value; `internal` says that it stands under an internal key. -/
def names (internal : Bool) : Value → List String
  | .string s => if internal then [s] else []
  | .array items => itemNames internal items
  | .object fields => fieldNames fields
  | _ => []

/-- The names in the items of an array. -/
def itemNames (internal : Bool) : List Value → List String
  | [] => []
  | v :: vs => names internal v ++ itemNames internal vs

/-- The keys of fields, and the names in their values. -/
def fieldNames : List (String × Value) → List String
  | [] => []
  | (key, v) :: fs => Key.parts key ++ names (Key.isInternal key) v ++ fieldNames fs

end

/-- An object at any depth of the value asks for a text that matches a pattern. -/
inductive Searches (pattern options : String) : Value → Prop where
  | here {fields : Layout} (hp : Query.pattern? fields = some (pattern, options)) :
    Searches pattern options (.object fields)
  | item {items : List Value} {v : Value} (hv : v ∈ items) (hs : Searches pattern options v) :
    Searches pattern options (.array items)
  | field {fields : Layout} {e : String × Value} (he : e ∈ fields)
    (hs : Searches pattern options e.2) : Searches pattern options (.object fields)

variable {internal : Bool} {n : String}

/-! ## Redacted names -/

mutual

theorem names_redact : ∀ (internal : Bool) (value : Value),
    (value.redact internal).names internal = value.names internal
  | internal, .array items => itemNames_redact internal items
  | _, .object fields => fieldNames_redact fields
  | internal, .null | internal, .bool _ | internal, .number _ | internal, .string _ => by
    cases internal <;> rfl

theorem itemNames_redact : ∀ (internal : Bool) (items : List Value),
    itemNames internal (redactItems internal items) = itemNames internal items
  | _, [] => rfl
  | internal, v :: vs => by
    rw [redactItems, itemNames, itemNames, names_redact internal v, itemNames_redact internal vs]

theorem fieldNames_redact : ∀ (fields : List (String × Value)),
    fieldNames (redactFields fields) = fieldNames fields
  | [] => rfl
  | (key, v) :: fs => by
    rw [redactFields, fieldNames, fieldNames, names_redact (Key.isInternal key) v,
      fieldNames_redact fs]

end

/-! ## Redacted fields -/

theorem get?_redactFields (fields : Layout) (key : String) :
    Keyed.get? (redactFields fields) key =
      (fields.get? key).map (redact (Key.isInternal key)) := by
  induction fields with
  | nil => rfl
  | cons e fs ih =>
    obtain ⟨k, v⟩ := e
    rw [redactFields, Keyed.get?, Keyed.get?, ih]
    split
    · next he =>
      subst he
      rfl
    · rfl

theorem contains_redactFields (fields : Layout) (key : String) :
    Keyed.contains (redactFields fields) key = fields.contains key := by
  rw [Keyed.contains, Keyed.contains, get?_redactFields, Option.isSome_map]

/-! ## Names of parts -/

theorem mem_itemNames_iff {items : List Value} :
    n ∈ itemNames internal items ↔ ∃ v ∈ items, n ∈ v.names internal := by
  induction items with
  | nil => simp [itemNames]
  | cons v vs ih => simp [itemNames, ih]

theorem mem_fieldNames_iff {fields : List (String × Value)} :
    n ∈ fieldNames fields ↔
      ∃ e ∈ fields, n ∈ Key.parts e.1 ∨ n ∈ e.2.names (Key.isInternal e.1) := by
  induction fields with
  | nil => simp [fieldNames]
  | cons e fs ih => simp [fieldNames, ih, or_assoc]

theorem mem_fieldNames_of_get? {fields : Layout} {key : String} {v : Value}
    (hv : fields.get? key = some v) (hn : n ∈ v.names (Key.isInternal key)) :
    n ∈ fieldNames fields :=
  mem_fieldNames_iff.2 ⟨(key, v), Keyed.mem_of_get? hv, .inr hn⟩

/-- The class that an object names is one of its names. -/
theorem mem_fieldNames_of_tag? {fields : Layout} (ht : Document.tag? fields = some n) :
    n ∈ fieldNames fields := by
  obtain ⟨v, hv, hs⟩ := Option.bind_eq_some_iff.1 ht
  refine mem_fieldNames_of_get? hv ?_
  cases v with
  | string s =>
    cases hs
    simp [names, Document.isInternal_classKey]
  | _ => cases hs

end Value

end TypedDocs
