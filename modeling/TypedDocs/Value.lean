import TypedDocs.Keyed
import TypedDocs.Number.Basic

/-!
# Values

The data of a document: nothing, truth values, numbers, texts, arrays, and objects with their
fields in order of keys.  Values are the same when they agree up to the form of their numbers:

    sameValue v v = true                                 (sameValue_refl)
    sameValue v w = sameValue w v                        (sameValue_comm)
    sameValue u v → sameValue v w → sameValue u w        (sameValue_trans)
-/

namespace TypedDocs

/-- A value of a document. -/
inductive Value where
  | null
  | bool (b : Bool)
  | number (n : Number)
  | string (s : String)
  | array (items : List Value)
  | object (fields : List (String × Value))
deriving BEq, Repr, Inhabited

/-- The fields of a document or of an embedded object. -/
abbrev Layout := Keyed Value

namespace Value

/-! ## Algorithm -/

/-- The text of a text value. -/
def string? : Value → Option String
  | .string s => some s
  | _ => none

/-- Whether the value is `null`. -/
def isNull : Value → Bool
  | .null => true
  | _ => false

/-- Whether the value is a truth value, a number or a text. -/
def isScalar : Value → Bool
  | .bool _ | .number _ | .string _ => true
  | _ => false

mutual

/-- Equality of values, numbers compared by their binary64 images. -/
def sameValue : Value → Value → Bool
  | .null, .null => true
  | .bool a, .bool b => a == b
  | .number a, .number b => a.sameValue b
  | .string a, .string b => a == b
  | .array a, .array b => sameItems a b
  | .object a, .object b => sameFields a b
  | _, _ => false

/-- Item by item. -/
def sameItems : List Value → List Value → Bool
  | [], [] => true
  | a :: as, b :: bs => sameValue a b && sameItems as bs
  | _, _ => false

/-- Field by field: fields stand in order of keys, so the keys agree in order. -/
def sameFields : List (String × Value) → List (String × Value) → Bool
  | [], [] => true
  | (j, a) :: as, (k, b) :: bs => j == k && sameValue a b && sameFields as bs
  | _, _ => false

end

/-! ## Lemmas -/

mutual

theorem sameValue_refl : ∀ v : Value, sameValue v v = true
  | .null => rfl
  | .bool _ => by simp [sameValue]
  | .number n => by simp [sameValue, Number.sameValue_refl n]
  | .string _ => by simp [sameValue]
  | .array items => by simp [sameValue, sameItems_refl items]
  | .object fields => by simp [sameValue, sameFields_refl fields]

theorem sameItems_refl : ∀ vs : List Value, sameItems vs vs = true
  | [] => rfl
  | v :: vs => by simp [sameItems, sameValue_refl v, sameItems_refl vs]

theorem sameFields_refl : ∀ fs : List (String × Value), sameFields fs fs = true
  | [] => rfl
  | (_, v) :: fs => by simp [sameFields, sameValue_refl v, sameFields_refl fs]

end

mutual

theorem sameValue_comm : ∀ v w : Value, sameValue v w = sameValue w v
  | .null, w => by cases w <;> rfl
  | .bool a, w => by cases w <;> simp [sameValue, Bool.beq_comm]
  | .number a, w => by cases w <;> simp [sameValue, Number.sameValue_comm a]
  | .string a, w => by
    cases w with
    | string b => simp only [sameValue, Bool.beq_eq_decide_eq, eq_comm]
    | _ => rfl
  | .array as, w => by
    cases w with
    | array bs => simp only [sameValue, sameItems_comm as bs]
    | _ => rfl
  | .object as, w => by
    cases w with
    | object bs => simp only [sameValue, sameFields_comm as bs]
    | _ => rfl

theorem sameItems_comm : ∀ vs ws : List Value, sameItems vs ws = sameItems ws vs
  | [], [] => rfl
  | [], _ :: _ => rfl
  | _ :: _, [] => rfl
  | v :: vs, w :: ws => by simp only [sameItems, sameValue_comm v w, sameItems_comm vs ws]

theorem sameFields_comm : ∀ fs gs : List (String × Value), sameFields fs gs = sameFields gs fs
  | [], [] => rfl
  | [], _ :: _ => rfl
  | _ :: _, [] => rfl
  | (j, v) :: fs, (k, w) :: gs => by
    simp only [sameFields, sameValue_comm v w, sameFields_comm fs gs, Bool.beq_eq_decide_eq,
      eq_comm (a := j)]

end

/-! The same value has the same form. -/

section Forms

variable {w : Value} {items others : List Value} {fields gs : List (String × Value)}

theorem sameValue_null_iff : sameValue .null w = true ↔ .null = w := by
  cases w <;> simp [sameValue]

theorem sameValue_bool_iff {b : Bool} : sameValue (.bool b) w = true ↔ .bool b = w := by
  cases w <;> simp [sameValue]

theorem sameValue_string_iff {s : String} : sameValue (.string s) w = true ↔ .string s = w := by
  cases w <;> simp [sameValue]

theorem sameValue_number_iff {n : Number} :
    sameValue (.number n) w = true ↔ ∃ m, w = .number m ∧ n.sameValue m = true := by
  cases w <;> simp [sameValue]

theorem sameValue_array_iff :
    sameValue (.array items) w = true ↔ ∃ others, w = .array others ∧
      sameItems items others = true := by
  cases w <;> simp [sameValue]

theorem sameValue_object_iff :
    sameValue (.object fields) w = true ↔ ∃ gs, w = .object gs ∧ sameFields fields gs = true := by
  cases w <;> simp [sameValue]

theorem sameItems_nil_iff : sameItems [] others = true ↔ others = [] := by
  cases others <;> simp [sameItems]

theorem sameItems_cons_iff {v : Value} :
    sameItems (v :: items) others = true ↔ ∃ w ws, others = w :: ws ∧ sameValue v w = true ∧
      sameItems items ws = true := by
  cases others with
  | nil => simp [sameItems]
  | cons w ws =>
    rw [sameItems, Bool.and_eq_true]
    constructor
    · rintro ⟨hv, hs⟩
      exact ⟨w, ws, rfl, hv, hs⟩
    · rintro ⟨_, _, he, hv, hs⟩
      cases he
      exact ⟨hv, hs⟩

theorem sameFields_nil_iff : sameFields [] gs = true ↔ gs = [] := by
  cases gs <;> simp [sameFields]

theorem sameFields_cons_iff {key : String} {v : Value} :
    sameFields ((key, v) :: fields) gs = true ↔ ∃ w hs, gs = (key, w) :: hs ∧
      sameValue v w = true ∧ sameFields fields hs = true := by
  cases gs with
  | nil => simp [sameFields]
  | cons g hs =>
    obtain ⟨k, w⟩ := g
    rw [sameFields, Bool.and_eq_true, Bool.and_eq_true, beq_iff_eq]
    constructor
    · rintro ⟨⟨rfl, hv⟩, hf⟩
      exact ⟨w, hs, rfl, hv, hf⟩
    · rintro ⟨_, _, he, hv, hf⟩
      cases he
      exact ⟨⟨rfl, hv⟩, hf⟩

end Forms

mutual

theorem sameValue_trans : ∀ {u v w : Value}, sameValue u v = true → sameValue v w = true →
    sameValue u w = true
  | .null, v, w, huv, hvw => by
    obtain rfl := sameValue_null_iff.1 huv
    exact hvw
  | .bool _, v, w, huv, hvw => by
    obtain rfl := sameValue_bool_iff.1 huv
    exact hvw
  | .string _, v, w, huv, hvw => by
    obtain rfl := sameValue_string_iff.1 huv
    exact hvw
  | .number _, v, w, huv, hvw => by
    obtain ⟨m, rfl, hnm⟩ := sameValue_number_iff.1 huv
    obtain ⟨l, rfl, hml⟩ := sameValue_number_iff.1 hvw
    exact Number.sameValue_trans hnm hml
  | .array items, v, w, huv, hvw => by
    obtain ⟨vs, rfl, hu⟩ := sameValue_array_iff.1 huv
    obtain ⟨ws, rfl, hv⟩ := sameValue_array_iff.1 hvw
    exact sameValue_array_iff.2 ⟨ws, rfl, sameItems_trans hu hv⟩
  | .object fields, v, w, huv, hvw => by
    obtain ⟨gs, rfl, hu⟩ := sameValue_object_iff.1 huv
    obtain ⟨hs, rfl, hv⟩ := sameValue_object_iff.1 hvw
    exact sameValue_object_iff.2 ⟨hs, rfl, sameFields_trans hu hv⟩

theorem sameItems_trans : ∀ {us vs ws : List Value}, sameItems us vs = true →
    sameItems vs ws = true → sameItems us ws = true
  | [], vs, ws, huv, hvw => by
    obtain rfl := sameItems_nil_iff.1 huv
    exact hvw
  | u :: us, vs, ws, huv, hvw => by
    obtain ⟨v, vs, rfl, hu, hus⟩ := sameItems_cons_iff.1 huv
    obtain ⟨w, ws, rfl, hv, hvs⟩ := sameItems_cons_iff.1 hvw
    exact sameItems_cons_iff.2 ⟨w, ws, rfl, sameValue_trans hu hv, sameItems_trans hus hvs⟩

theorem sameFields_trans : ∀ {fs gs hs : List (String × Value)}, sameFields fs gs = true →
    sameFields gs hs = true → sameFields fs hs = true
  | [], gs, hs, hfg, hgh => by
    obtain rfl := sameFields_nil_iff.1 hfg
    exact hgh
  | (_, u) :: fs, gs, hs, hfg, hgh => by
    obtain ⟨v, gs, rfl, hu, hfs⟩ := sameFields_cons_iff.1 hfg
    obtain ⟨w, hs, rfl, hv, hgs⟩ := sameFields_cons_iff.1 hgh
    exact sameFields_cons_iff.2 ⟨w, hs, rfl, sameValue_trans hu hv, sameFields_trans hfs hgs⟩

end

end Value

end TypedDocs
