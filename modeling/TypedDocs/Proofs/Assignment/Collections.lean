import Mathlib.Data.List.Forall2
import TypedDocs.Assignment
import TypedDocs.Proofs.Hierarchy.Resolution

/-!
# Values of collections

An array or a bag of scalars or of embedded objects is typed through what it holds: each value under
the type of the elements, in order, and the first one that is refused refuses the whole.  An array or
a bag of collections is copied with all that is in it, which is neither typed nor refused.

    element.isElement → (typedValue h strict name (.arrayOf element) (.array items) = .error fault ↔
      FirstFault (typedValue h strict name element) items fault)               (typing_of_collections)
-/

namespace TypedDocs.Assignment

/-! ## Definitions -/

/-- Making something of each of a list in turn, `fault` is that of the first of which nothing can be
made. -/
def FirstFault {α β : Type} (make : α → Except Fault β) (list : List α) (fault : Fault) : Prop :=
  ∃ before a after, list = before ++ a :: after ∧ (∀ x ∈ before, ∃ b, make x = .ok b) ∧
    make a = .error fault

variable {h : Hierarchy} {strict : Bool} {name classId : String} {element : AttributeType}
  {typed : Value} {fault : Fault}

/-! ## The first fault -/

section FirstFault

variable {α β : Type} {make : α → Except Fault β} {a : α} {rest : List α}

theorem not_firstFault_nil : ¬FirstFault make [] fault := by
  rintro ⟨before, a, after, he, -, -⟩
  simp at he

/-- Nothing is refused where of everything something is made. -/
theorem not_firstFault_of_ok {list : List α} (hok : ∀ x ∈ list, ∃ b, make x = .ok b) :
    ¬FirstFault make list fault := by
  rintro ⟨before, a, after, rfl, -, ha⟩
  obtain ⟨b, hb⟩ := hok a (by simp)
  rw [ha] at hb
  cases hb

/-- The first fault is that of the head, or the head is made and the fault is the first of the
rest. -/
theorem firstFault_cons_iff :
    FirstFault make (a :: rest) fault ↔
      make a = .error fault ∨ ∃ b, make a = .ok b ∧ FirstFault make rest fault := by
  constructor
  · rintro ⟨before, x, after, he, hbefore, hx⟩
    cases before with
    | nil =>
      cases he
      exact .inl hx
    | cons first before =>
      cases he
      obtain ⟨hfirst, hbefore⟩ := List.forall_mem_cons.1 hbefore
      obtain ⟨b, hb⟩ := hfirst
      exact .inr ⟨b, hb, before, x, after, rfl, hbefore, hx⟩
  · rintro (ha | ⟨b, hb, before, x, after, rfl, hbefore, hx⟩)
    · exact ⟨[], a, rest, rfl, by simp, ha⟩
    · exact ⟨a :: before, x, after, rfl, List.forall_mem_cons.2 ⟨⟨b, hb⟩, hbefore⟩, hx⟩

/-- What is made of a head and of a rest fails where one of the two does, the head first. -/
theorem cons_eq_error_iff {γ : Type} {made : Except Fault (List γ)} {f : β → γ}
    (hrest : made = .error fault ↔ FirstFault make rest fault) :
    (make a >>= fun b => made >>= fun bs => Except.ok (f b :: bs)) = .error fault ↔
      FirstFault make (a :: rest) fault := by
  rw [firstFault_cons_iff, ← hrest]
  cases make a with
  | error reason => simp
  | ok b => cases made <;> simp

end FirstFault

/-! ## Embedded objects -/

/-- An item is embedded as a value of its type; the name is that of a fault which only arrays
meet. -/
theorem embed_eq_typedValue (name : String) (value : Value) :
    embed h strict classId value = typedValue h strict name (.instanceOf classId) value := by
  cases value with
  | object fields =>
    rw [embed, typedValue]
  | _ => rw [embed, typedValue] <;> simp

theorem embedItems_eq_ok_iff {items built : List Value} :
    embedItems h strict classId items = .ok built ↔
      List.Forall₂ (fun item b => embed h strict classId item = .ok b) items built := by
  induction items generalizing built with
  | nil => simp [embedItems, eq_comm]
  | cons item rest ih =>
    simp only [embedItems, bind_eq_ok_iff, pure_eq_ok, ih, List.forall₂_cons_left_iff]
    constructor
    · rintro ⟨v, hv, vs, hvs, he⟩
      cases he
      exact ⟨v, vs, hv, hvs, rfl⟩
    · rintro ⟨v, vs, hv, hvs, rfl⟩
      exact ⟨v, hv, vs, hvs, rfl⟩

theorem embedItems_eq_error_iff {items : List Value} :
    embedItems h strict classId items = .error fault ↔
      FirstFault (embed h strict classId) items fault := by
  induction items with
  | nil => simp [embedItems, not_firstFault_nil]
  | cons item rest ih => exact cons_eq_error_iff ih

theorem embedEntries_eq_ok_iff {entries built : List (String × Value)} :
    embedEntries h strict classId entries = .ok built ↔
      List.Forall₂ (fun e b => b.1 = e.1 ∧ embed h strict classId e.2 = .ok b.2) entries
        built := by
  induction entries generalizing built with
  | nil => simp [embedEntries, eq_comm]
  | cons e rest ih =>
    simp only [embedEntries, bind_eq_ok_iff, pure_eq_ok, ih, List.forall₂_cons_left_iff]
    constructor
    · rintro ⟨v, hv, vs, hvs, he⟩
      cases he
      exact ⟨(e.1, v), vs, ⟨rfl, hv⟩, hvs, rfl⟩
    · rintro ⟨⟨k, v⟩, vs, ⟨rfl, hv⟩, hvs, rfl⟩
      exact ⟨v, hv, vs, hvs, rfl⟩

theorem embedEntries_eq_error_iff {entries : Layout} :
    embedEntries h strict classId entries = .error fault ↔
      FirstFault (fun e => embed h strict classId e.2) entries fault := by
  induction entries with
  | nil => simp [embedEntries, not_firstFault_nil]
  | cons e rest ih => exact cons_eq_error_iff (f := fun v => (e.1, v)) ih

theorem typedValue_items_eq_ok_iff {items : List Value} :
    typedValue h strict name (.arrayOf (.instanceOf classId)) (.array items) = .ok typed ↔
      ∃ built, embedItems h strict classId items = .ok built ∧ typed = .array built := by
  rw [typedValue]
  cases embedItems h strict classId items <;> simp [Except.map, eq_comm]

theorem typedValue_items_eq_error_iff {items : List Value} :
    typedValue h strict name (.arrayOf (.instanceOf classId)) (.array items) = .error fault ↔
      FirstFault (typedValue h strict name (.instanceOf classId)) items fault := by
  have hembed : embed h strict classId = typedValue h strict name (.instanceOf classId) :=
    funext (embed_eq_typedValue name)
  rw [typedValue, ← hembed, ← embedItems_eq_error_iff]
  cases embedItems h strict classId items <;> simp [Except.map]

theorem typedValue_entries_eq_ok_iff {entries : Layout} :
    typedValue h strict name (.bagOf (.instanceOf classId)) (.object entries) = .ok typed ↔
      ∃ built, embedEntries h strict classId entries = .ok built ∧ typed = .object built := by
  rw [typedValue]
  cases embedEntries h strict classId entries <;> simp [Except.map, eq_comm]

theorem typedValue_entries_eq_error_iff {entries : Layout} :
    typedValue h strict name (.bagOf (.instanceOf classId)) (.object entries) = .error fault ↔
      FirstFault (fun e => typedValue h strict name (.instanceOf classId) e.2) entries fault := by
  have hembed : embed h strict classId = typedValue h strict name (.instanceOf classId) :=
    funext (embed_eq_typedValue name)
  rw [typedValue, ← hembed, ← embedEntries_eq_error_iff]
  cases embedEntries h strict classId entries <;> simp [Except.map]

/-! ## Copies -/

theorem eq_instanceOf_or_isScalar (he : element.isElement = true) :
    (∃ classId, element = .instanceOf classId) ∨ element.isScalar = true := by
  cases element with
  | instanceOf classId => exact .inl ⟨classId, rfl⟩
  | arrayOf inner => cases he
  | bagOf inner => cases he
  | _ => exact .inr rfl

theorem ne_instanceOf_of_isScalar (hs : element.isScalar = true) :
    ∀ classId, element ≠ .instanceOf classId := by
  rintro classId rfl
  cases hs

/-- Under a scalar type every value is copied. -/
theorem typedValue_of_isScalar (hs : element.isScalar = true) (value : Value) :
    typedValue h strict name element value = .ok value := by
  cases element with
  | instanceOf classId => cases hs
  | arrayOf inner => cases hs
  | bagOf inner => cases hs
  | _ => cases value <;> rfl

/-- Where no embedded objects stand under the elements themselves, an array is copied. -/
theorem typedValue_array_copied (hc : ∀ classId, element ≠ .instanceOf classId)
    (items : List Value) :
    typedValue h strict name (.arrayOf element) (.array items) = .ok (.array items) := by
  cases element with
  | instanceOf classId => exact absurd rfl (hc classId)
  | _ => rfl

/-- Where no embedded objects stand under the elements themselves, a bag is copied. -/
theorem typedValue_bag_copied (hc : ∀ classId, element ≠ .instanceOf classId)
    (entries : Layout) :
    typedValue h strict name (.bagOf element) (.object entries) = .ok (.object entries) := by
  cases element with
  | instanceOf classId => exact absurd rfl (hc classId)
  | _ => rfl

/-! ## Arrays and bags -/

/-- An array of scalars or embedded objects is made item by item. -/
theorem typedValue_array_eq_ok_iff (he : element.isElement = true) {items : List Value} :
    typedValue h strict name (.arrayOf element) (.array items) = .ok typed ↔
      ∃ built, typed = .array built ∧
        List.Forall₂ (fun item b => typedValue h strict name element item = .ok b) items built := by
  rcases eq_instanceOf_or_isScalar he with ⟨classId, rfl⟩ | hs
  · rw [typedValue_items_eq_ok_iff]
    simp only [embedItems_eq_ok_iff, embed_eq_typedValue name, and_comm]
  · rw [typedValue_array_copied (ne_instanceOf_of_isScalar hs)]
    simp only [typedValue_of_isScalar hs, Except.ok.injEq, List.forall₂_eq_eq_eq]
    constructor
    · rintro rfl
      exact ⟨items, rfl, rfl⟩
    · rintro ⟨_, rfl, rfl⟩
      rfl

theorem typedValue_array_eq_error_iff (he : element.isElement = true) {items : List Value} :
    typedValue h strict name (.arrayOf element) (.array items) = .error fault ↔
      FirstFault (typedValue h strict name element) items fault := by
  rcases eq_instanceOf_or_isScalar he with ⟨classId, rfl⟩ | hs
  · exact typedValue_items_eq_error_iff
  · rw [typedValue_array_copied (ne_instanceOf_of_isScalar hs)]
    have hok : ∀ item ∈ items, ∃ b, typedValue h strict name element item = .ok b :=
      fun item _ => ⟨item, typedValue_of_isScalar hs item⟩
    simp [not_firstFault_of_ok hok]

/-- A bag of scalars or embedded objects is made entry by entry, under the same keys. -/
theorem typedValue_bag_eq_ok_iff (he : element.isElement = true) {entries : Layout} :
    typedValue h strict name (.bagOf element) (.object entries) = .ok typed ↔
      ∃ built, typed = .object built ∧
        List.Forall₂ (fun e b => b.1 = e.1 ∧ typedValue h strict name element e.2 = .ok b.2)
          entries built := by
  rcases eq_instanceOf_or_isScalar he with ⟨classId, rfl⟩ | hs
  · rw [typedValue_entries_eq_ok_iff]
    simp only [embedEntries_eq_ok_iff, embed_eq_typedValue name, and_comm]
  · rw [typedValue_bag_copied (ne_instanceOf_of_isScalar hs)]
    have hsame : (fun e b : String × Value => b.1 = e.1 ∧ e.2 = b.2) = Eq := by
      funext e b
      rw [Prod.ext_iff, eq_comm (a := b.1)]
    simp only [typedValue_of_isScalar hs, Except.ok.injEq, hsame, List.forall₂_eq_eq_eq]
    constructor
    · rintro rfl
      exact ⟨entries, rfl, rfl⟩
    · rintro ⟨_, rfl, rfl⟩
      rfl

theorem typedValue_bag_eq_error_iff (he : element.isElement = true) {entries : Layout} :
    typedValue h strict name (.bagOf element) (.object entries) = .error fault ↔
      FirstFault (fun e => typedValue h strict name element e.2) entries fault := by
  rcases eq_instanceOf_or_isScalar he with ⟨classId, rfl⟩ | hs
  · exact typedValue_entries_eq_error_iff
  · rw [typedValue_bag_copied (ne_instanceOf_of_isScalar hs)]
    have hok : ∀ e ∈ entries, ∃ b, typedValue h strict name element e.2 = .ok b :=
      fun e _ => ⟨e.2, typedValue_of_isScalar hs e.2⟩
    simp [not_firstFault_of_ok hok]

/-! ## Main statement -/

/-- A collection of scalars or embedded objects is made of what its elements are typed as, in order,
or the first one that is refused refuses it; a collection of collections is copied. -/
theorem typing_of_collections (h : Hierarchy) (strict : Bool) (name : String)
    (element : AttributeType) :
    (element.isElement = true →
      (∀ items typed, typedValue h strict name (.arrayOf element) (.array items) = .ok typed ↔
        ∃ built, typed = .array built ∧
          List.Forall₂ (fun item b => typedValue h strict name element item = .ok b) items built) ∧
      (∀ items fault, typedValue h strict name (.arrayOf element) (.array items) = .error fault ↔
        FirstFault (typedValue h strict name element) items fault) ∧
      (∀ entries typed, typedValue h strict name (.bagOf element) (.object entries) = .ok typed ↔
        ∃ built, typed = .object built ∧
          List.Forall₂ (fun e b => b.1 = e.1 ∧ typedValue h strict name element e.2 = .ok b.2)
            entries built) ∧
      ∀ entries fault, typedValue h strict name (.bagOf element) (.object entries) = .error fault ↔
        FirstFault (fun e => typedValue h strict name element e.2) entries fault) ∧
    (element.isElement = false →
      (∀ items, typedValue h strict name (.arrayOf element) (.array items) = .ok (.array items)) ∧
      ∀ entries,
        typedValue h strict name (.bagOf element) (.object entries) = .ok (.object entries)) := by
  constructor
  · intro he
    exact ⟨fun _ _ => typedValue_array_eq_ok_iff he, fun _ _ => typedValue_array_eq_error_iff he,
      fun _ _ => typedValue_bag_eq_ok_iff he, fun _ _ => typedValue_bag_eq_error_iff he⟩
  · intro he
    have hc : ∀ classId, element ≠ .instanceOf classId := by
      rintro classId rfl
      cases he
    exact ⟨typedValue_array_copied hc, typedValue_bag_copied hc⟩

/-- Of three subtasks the second and the third have an attribute that subtasks do not have, and the
second one is named. -/
theorem typing_of_collections_subtasks :
    typedValue .tasks true "tasks" (.arrayOf (.instanceOf "SubTask")) (.array
      [.object [("name", .string "x")], .object [("login", .string "y")],
        .object [("hours", .null)]]) = .error (.attributeNotFound "SubTask" "login") := by
  obtain ⟨helements, -⟩ := typing_of_collections .tasks true "tasks" (.instanceOf "SubTask")
  obtain ⟨-, hfault, -, -⟩ := helements rfl
  refine (hfault _ _).2 ⟨[.object [("name", .string "x")]], _, _, rfl, ?_, rfl⟩
  exact List.forall_mem_singleton.2 ⟨_, rfl⟩

/-- Arrays of subtasks are typed alone, but not in an array or a bag of them; nor does strict
assignment look for arrays there. -/
theorem exists_untyped_elements :
    (∃ items built, built ≠ items ∧
      typedValue .tasks false "tasks" (.arrayOf (.instanceOf "SubTask")) (.array items) =
        .ok (.array built) ∧
      typedValue .tasks false "tasks" (.arrayOf (.arrayOf (.instanceOf "SubTask")))
        (.array [.array items]) = .ok (.array [.array items]) ∧
      typedValue .tasks false "tasks" (.bagOf (.arrayOf (.instanceOf "SubTask")))
        (.object [("k", .array items)]) = .ok (.object [("k", .array items)])) ∧
    ∃ item, typedValue .tasks true "labels" (.arrayOf .string) item =
        .error (.wrongType "labels" .array) ∧
      typedValue .tasks true "labels" (.arrayOf (.arrayOf .string)) (.array [item]) =
        .ok (.array [item]) :=
  ⟨⟨[.object [("name", .string "x")]], [.object [("_class", .string "SubTask"),
    ("name", .string "x")]], by simp, rfl, rfl, rfl⟩, .string "x", rfl, rfl⟩

end TypedDocs.Assignment
