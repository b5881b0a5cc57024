import TypedDocs.Value

/-!
# Values in order

In a value that was read from a text every object has its fields in order of keys, each key
once.  Such values are *ordered*.
-/

namespace TypedDocs

namespace Value

/-! ## Definition -/

mutual

/-- Every object in a value has its fields in order of keys. -/
def Ordered : Value → Prop
  | .array items => ItemsOrdered items
  | .object fields => Keyed.Sorted fields ∧ FieldsOrdered fields
  | _ => True

/-- Every item is ordered. -/
def ItemsOrdered : List Value → Prop
  | [] => True
  | v :: vs => Ordered v ∧ ItemsOrdered vs

/-- The value of every field is ordered. -/
def FieldsOrdered : List (String × Value) → Prop
  | [] => True
  | (_, v) :: fs => Ordered v ∧ FieldsOrdered fs

end

/-! ## Decision -/

mutual

/-- Decides whether a value is ordered. -/
def decideOrdered : (v : Value) → Decidable (Ordered v)
  | .array items => decideItemsOrdered items
  | .object fields => @instDecidableAnd _ _ _ (decideFieldsOrdered fields)
  | .null | .bool _ | .number _ | .string _ => .isTrue trivial

/-- Decides whether every item is ordered. -/
def decideItemsOrdered : (items : List Value) → Decidable (ItemsOrdered items)
  | [] => .isTrue trivial
  | v :: vs => @instDecidableAnd _ _ (decideOrdered v) (decideItemsOrdered vs)

/-- Decides whether the value of every field is ordered. -/
def decideFieldsOrdered : (fields : List (String × Value)) → Decidable (FieldsOrdered fields)
  | [] => .isTrue trivial
  | (_, v) :: fs => @instDecidableAnd _ _ (decideOrdered v) (decideFieldsOrdered fs)

end

instance (v : Value) : Decidable v.Ordered := decideOrdered v

/-! ## Lemmas -/

theorem itemsOrdered_iff {items : List Value} : ItemsOrdered items ↔ ∀ v ∈ items, Ordered v := by
  induction items with
  | nil => simp [ItemsOrdered]
  | cons v vs ih => simp [ItemsOrdered, ih]

theorem fieldsOrdered_iff {fields : List (String × Value)} :
    FieldsOrdered fields ↔ ∀ e ∈ fields, Ordered e.2 := by
  induction fields with
  | nil => simp [FieldsOrdered]
  | cons e fs ih => simp [FieldsOrdered, ih]

end Value

/-- The fields of a layout are in order of keys, and so are those of every object in it. -/
def Layout.Ordered (layout : Layout) : Prop := (Value.object layout).Ordered

instance (layout : Layout) : Decidable layout.Ordered :=
  inferInstanceAs (Decidable (Value.object layout).Ordered)

theorem Layout.ordered_iff {layout : Layout} :
    layout.Ordered ↔ Keyed.Sorted layout ∧ ∀ e ∈ layout, e.2.Ordered := by
  rw [Layout.Ordered, Value.Ordered, Value.fieldsOrdered_iff]

end TypedDocs
