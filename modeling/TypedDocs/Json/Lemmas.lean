import TypedDocs.Json.Basic
import TypedDocs.Value.Ordered

/-!
# Values and their trees

The values that trees denote are the ordered ones, and an ordered value is read back from its
tree:

    Value.ofJson? v.toJson = some v         when `v` is ordered       (Value.ofJson?_toJson)
    Value.ofJson? j = some v → v.Ordered                              (Value.ordered_of_ofJson?)
-/

namespace TypedDocs

namespace Value

/-! ## Reading back -/

mutual

theorem ofJson?_toJson : ∀ v : Value, v.Ordered → ofJson? (toJson v) = some v
  | .null, _ => rfl
  | .bool _, _ => rfl
  | .number _, _ => rfl
  | .string _, _ => rfl
  | .array items, h => by
    rw [Ordered] at h
    simp [toJson, ofJson?, ofItems?_itemsToJson items h]
  | .object fields, h => by
    rw [Ordered] at h
    simp [toJson, ofJson?, ofMembers?_fieldsToJson fields h.2, Keyed.ofEntries_of_sorted h.1]

theorem ofItems?_itemsToJson : ∀ vs : List Value, ItemsOrdered vs →
    ofItems? (itemsToJson vs) = some vs
  | [], _ => rfl
  | v :: vs, h => by
    rw [ItemsOrdered] at h
    simp [itemsToJson, ofItems?, ofJson?_toJson v h.1, ofItems?_itemsToJson vs h.2]

theorem ofMembers?_fieldsToJson : ∀ fs : List (String × Value), FieldsOrdered fs →
    ofMembers? (fieldsToJson fs) = some fs
  | [], _ => rfl
  | (_, v) :: fs, h => by
    rw [FieldsOrdered] at h
    simp [fieldsToJson, ofMembers?, ofJson?_toJson v h.1, ofMembers?_fieldsToJson fs h.2]

end

/-! ## What is read -/

theorem ordered_ofEntries {entries : List (String × Value)} (h : FieldsOrdered entries) :
    (Value.object (Keyed.ofEntries entries)).Ordered := by
  rw [fieldsOrdered_iff] at h
  rw [Ordered, fieldsOrdered_iff]
  exact ⟨Keyed.sorted_ofEntries entries, fun e he => h e (Keyed.mem_of_mem_ofEntries he)⟩

mutual

theorem ordered_of_ofJson? : ∀ (j : Json) {v : Value}, ofJson? j = some v → v.Ordered
  | .null, _, h | .bool _, _, h | .number _, _, h | .string _, _, h => by
    cases h
    trivial
  | .unreadable, _, h => by simp [ofJson?] at h
  | .array items, _, h => by
    obtain ⟨vs, hvs, rfl⟩ := Option.map_eq_some_iff.1 h
    rw [Ordered]
    exact itemsOrdered_of_ofItems? items hvs
  | .object members, _, h => by
    obtain ⟨fs, hfs, rfl⟩ := Option.map_eq_some_iff.1 h
    exact ordered_ofEntries (fieldsOrdered_of_ofMembers? members hfs)

theorem itemsOrdered_of_ofItems? : ∀ (js : List Json) {vs : List Value},
    ofItems? js = some vs → ItemsOrdered vs
  | [], _, h => by
    cases h
    trivial
  | j :: js, _, h => by
    simp only [ofItems?, bind, Option.bind_eq_some_iff] at h
    obtain ⟨v, hv, vs, hvs, h⟩ := h
    cases h
    exact ⟨ordered_of_ofJson? j hv, itemsOrdered_of_ofItems? js hvs⟩

theorem fieldsOrdered_of_ofMembers? : ∀ (js : List (String × Json)) {fs : List (String × Value)},
    ofMembers? js = some fs → FieldsOrdered fs
  | [], _, h => by
    cases h
    trivial
  | (_, j) :: js, _, h => by
    simp only [ofMembers?, bind, Option.bind_eq_some_iff] at h
    obtain ⟨v, hv, fs, hfs, h⟩ := h
    cases h
    exact ⟨ordered_of_ofJson? j hv, fieldsOrdered_of_ofMembers? js hfs⟩

end

end Value

/-! ## Layouts -/

theorem Layout.ofJson?_toJson {layout : Layout} (h : layout.Ordered) :
    Layout.ofJson? layout.toJson = some layout := by
  rw [Layout.Ordered, Value.Ordered] at h
  simp [Layout.toJson, Layout.ofJson?, Value.ofMembers?_fieldsToJson layout h.2,
    Keyed.ofEntries_of_sorted h.1]

end TypedDocs
