import TypedDocs.Proofs.Assignment.Order

/-!
# The class of an embedded object

An embedded object is built anew from the fields that are given for it.  It starts with the concrete
class of the classifier that types it, for which its keys are read, and the given fields are written
over this.  So it names that class, unless a field names another or none (`Tagged`).  The objects in
it are built in the same way, each typed by its attribute (`Built`), and an assignment builds every
object that it writes:

    values.Ordered → assign h strict c target values = .ok result →
      result.get? key = some value →
        target.get? key = some value ∨ FieldBuilt h c values key value      (fieldBuilt_of_assign)
-/

namespace TypedDocs

/-! ## Definitions -/

/-- Under the type the value is one or more objects to build. -/
def AttributeType.embeds (type : AttributeType) : Value → Bool
  | .array _ => (type matches .arrayOf (.instanceOf _))
  | .object _ => (type matches .instanceOf _ | .bagOf (.instanceOf _))
  | _ => false

namespace Assignment

/-- The class of an object built of fields, where `base` is the concrete class of its type.  A field
that is there for the class is copied; where that is no text, the object may be given the class of
a classifier that a key of the fields names. -/
inductive Tagged (h : Hierarchy) (base : String) (fields layout : Layout) : Prop where
  | own (hgiven : fields.get? Document.classKey = none ∨
      fields.get? Document.classKey = some (.string base))
    (hfound : layout.get? Document.classKey = some (.string base))
  | copied {value : Value} (hgiven : fields.get? Document.classKey = some value)
    (hother : value ≠ .string base) (hfound : layout.get? Document.classKey = some value)
  | retagged {value : Value} (hgiven : fields.get? Document.classKey = some value)
    (hret : Retagged h fields (some value) (layout.get? Document.classKey))

mutual

/-- How a value under a type is built of the value given for it. -/
inductive Built (h : Hierarchy) : AttributeType → Value → Value → Prop where
  | copied {type : AttributeType} {value : Value} (he : type.embeds value = false) :
    Built h type value value
  | object {declared typing base : String} {fields layout : Layout}
    (htyping : (h.embeddedClass (some declared) fields).getD declared = typing)
    (hbase : h.concreteClass typing = .ok base) (htag : Tagged h base fields layout)
    (hfields : ∀ key value, Key.isInternal key = false → layout.get? key = some value →
      FieldBuilt h typing fields key value) :
    Built h (.instanceOf declared) (.object fields) (.object layout)
  | array {declared : String} {items built : List Value} (hl : items.length = built.length)
    (hitems : ∀ item b, (item, b) ∈ items.zip built → Built h (.instanceOf declared) item b) :
    Built h (.arrayOf (.instanceOf declared)) (.array items) (.array built)
  | bag {declared : String} {entries built : List (String × Value)}
    (hkeys : built.map Prod.fst = entries.map Prod.fst)
    (hentries : ∀ e b, (e, b) ∈ entries.zip built → Built h (.instanceOf declared) e.2 b.2) :
    Built h (.bagOf (.instanceOf declared)) (.object entries) (.object built)

/-- What stands under a key is built of a given field, whose attribute for the classifier is stored
there. -/
inductive FieldBuilt (h : Hierarchy) : String → Layout → String → Value → Prop where
  | field {typing : String} {fields : Layout} {e : String × Value} {attr : ResolvedAttribute}
    {value : Value} (he : e ∈ fields) (hattr : h.resolveKey typing e.1 = .ok attr)
    (hbuilt : Built h attr.type e.2 value) : FieldBuilt h typing fields attr.wire value

end

variable {h : Hierarchy} {strict : Bool} {classId declared name : String}
  {type : AttributeType} {value typed : Value}

/-! ## The class -/

/-- The fields of an object are written over its concrete class. -/
theorem tagged_assignEntries {typing base : String} {fields layout : Layout}
    (hn : (fields.map Prod.fst).Nodup)
    (ha : assignEntries h strict typing [(Document.classKey, .string base)] fields = .ok layout) :
    Tagged h base fields layout := by
  have hstart : Keyed.get? [(Document.classKey, Value.string base)] Document.classKey =
      some (.string base) := by
    rw [Keyed.get?, if_pos rfl]
  have hcases := get?_assignEntries_internal hn ha Document.isInternal_classKey
  rw [hstart] at hcases
  cases hgiven : Keyed.get? fields Document.classKey with
  | none =>
    rw [hgiven] at hcases
    rcases hcases with hfound | ⟨-, hstring, -⟩
    · exact .own (.inl hgiven) hfound
    · cases hstring
  | some given =>
    rw [hgiven] at hcases
    rcases hcases with hfound | ⟨-, hret⟩
    · by_cases hsame : given = .string base
      · subst hsame
        exact .own (.inr hgiven) hfound
      · exact .copied hgiven hsame hfound
    · exact .retagged hgiven hret

/-- An object names its class, if its fields name no other and have nothing else in its place. -/
theorem Tagged.tag?_eq {base : String} {fields layout : Layout} (ht : Tagged h base fields layout)
    (hgiven : fields.get? Document.classKey = none ∨
      fields.get? Document.classKey = some (.string base)) :
    Document.tag? layout = some base := by
  rw [Document.tag?]
  cases ht with
  | own _ hfound =>
    rw [hfound]
    rfl
  | copied hother hne _ =>
    rw [hother] at hgiven
    rcases hgiven with hnone | hbase
    · cases hnone
    · cases hbase
      exact absurd rfl hne
  | retagged hother hret =>
    rw [hother] at hgiven
    rcases hgiven with hnone | hbase
    · cases hnone
    · cases hbase
      cases hret.1

/-! ## What is copied -/

theorem exists_of_embeds_array {items : List Value} (he : type.embeds (.array items) = true) :
    ∃ declared, type = .arrayOf (.instanceOf declared) := by
  unfold AttributeType.embeds at he
  simp only at he
  split at he
  · exact ⟨_, rfl⟩
  · cases he

theorem exists_of_embeds_object {fields : Layout} (he : type.embeds (.object fields) = true) :
    ∃ declared, type = .instanceOf declared ∨ type = .bagOf (.instanceOf declared) := by
  unfold AttributeType.embeds at he
  simp only at he
  split at he
  · exact ⟨_, .inl rfl⟩
  · exact ⟨_, .inr rfl⟩
  · cases he

/-- What is no object to build is copied, if it is not refused. -/
theorem eq_of_typedValue (he : type.embeds value = false)
    (ht : typedValue h strict name type value = .ok typed) : typed = value := by
  cases value with
  | null =>
    rw [typedValue] at ht
    cases ht
    rfl
  | bool b | number n | string s => exact eq_of_typedValue_scalar rfl ht
  | array items =>
    unfold typedValue at ht
    split at ht
    · cases he
    · cases ht
      rfl
  | object fields =>
    unfold typedValue at ht
    split at ht
    · split at ht
      · cases ht
      · cases ht
        rfl
    · cases he
    · cases he
    · cases ht
      rfl

/-! ## What is built -/

/-- An object is built of its fields when the values of its fields are. -/
theorem built_object {typing : String} {fields start layout : Layout}
    (hn : (fields.map Prod.fst).Nodup)
    (hf : ∀ e ∈ fields, ∀ (name : String) (type : AttributeType) (typed : Value),
      typedValue h strict name type e.2 = .ok typed → Built h type e.2 typed)
    (hs : startEmbedded h declared fields = .ok (typing, start))
    (ha : assignEntries h strict typing start fields = .ok layout) :
    Built h (.instanceOf declared) (.object fields) (.object layout) := by
  obtain ⟨htyping, base, hbase, rfl⟩ := startEmbedded_eq_ok hs
  refine .object htyping.symm hbase (tagged_assignEntries hn ha) fun key value hk hv => ?_
  rcases get?_assignEntries_cases ha hk hv with hstart | ⟨e, he, hw⟩
  · rw [Keyed.get?, if_neg (Key.ne_of_isInternal Document.isInternal_classKey hk)] at hstart
    cases hstart
  · cases hw with
    | internal hint =>
      rw [hk] at hint
      cases hint
    | typed _ hattr htyped => exact .field he hattr (hf _ he _ _ _ htyped)

mutual

/-- What assignment makes of an ordered value is built of it. -/
theorem built_typedValue : ∀ (value : Value) {name : String} {type : AttributeType}
    {typed : Value}, value.Ordered → typedValue h strict name type value = .ok typed →
    Built h type value typed
  | .array items, name, type, typed, hv, ht => by
    cases he : type.embeds (.array items) with
    | false =>
      rw [eq_of_typedValue he ht]
      exact .copied he
    | true =>
      obtain ⟨declared, rfl⟩ := exists_of_embeds_array he
      obtain ⟨built, hb, rfl⟩ := typedValue_items_eq_ok_iff.1 ht
      obtain ⟨hl, hzip⟩ := List.forall₂_iff_zip.1 (embedItems_eq_ok_iff.1 hb)
      have hitems := built_items items (Value.ordered_array_iff.1 hv)
      refine .array hl fun item b hm => ?_
      have hembed : typedValue h strict name (.instanceOf declared) item = .ok b := by
        rw [← embed_eq_typedValue, hzip hm]
      exact hitems item (List.of_mem_zip hm).1 _ _ _ hembed
  | .object fields, name, type, typed, hv, ht => by
    obtain ⟨hsorted, hall⟩ := Value.ordered_object_iff.1 hv
    cases he : type.embeds (.object fields) with
    | false =>
      rw [eq_of_typedValue he ht]
      exact .copied he
    | true =>
      have hfields := built_fields fields hall
      obtain ⟨declared, rfl | rfl⟩ := exists_of_embeds_object he
      · obtain ⟨typing, start, layout, hstart, hlayout, rfl⟩ := typedValue_object_eq_ok_iff.1 ht
        exact built_object hsorted.nodup hfields hstart hlayout
      · obtain ⟨built, hb, rfl⟩ := typedValue_entries_eq_ok_iff.1 ht
        obtain ⟨-, hzip⟩ := List.forall₂_iff_zip.1 (embedEntries_eq_ok_iff.1 hb)
        refine .bag (keys_embedEntries hb) fun e b hm => ?_
        have hembed : typedValue h strict name (.instanceOf declared) e.2 = .ok b.2 := by
          rw [← embed_eq_typedValue, (hzip hm).2]
        exact hfields e (List.of_mem_zip hm).1 _ _ _ hembed
  | .null, name, type, typed, hv, ht | .bool b, name, type, typed, hv, ht
  | .number b, name, type, typed, hv, ht | .string b, name, type, typed, hv, ht => by
    rw [eq_of_typedValue rfl ht]
    exact .copied rfl

theorem built_items : ∀ (items : List Value), (∀ item ∈ items, item.Ordered) →
    ∀ item ∈ items, ∀ (name : String) (type : AttributeType) (typed : Value),
      typedValue h strict name type item = .ok typed → Built h type item typed
  | [], _ => by simp
  | first :: rest, hi => by
    obtain ⟨hfirst, hrest⟩ := List.forall_mem_cons.1 hi
    exact List.forall_mem_cons.2
      ⟨fun _ _ _ ht => built_typedValue first hfirst ht, built_items rest hrest⟩

theorem built_fields : ∀ (fields : List (String × Value)), (∀ e ∈ fields, e.2.Ordered) →
    ∀ e ∈ fields, ∀ (name : String) (type : AttributeType) (typed : Value),
      typedValue h strict name type e.2 = .ok typed → Built h type e.2 typed
  | [], _ => by simp
  | (key, value) :: rest, hf => by
    obtain ⟨hfirst, hrest⟩ := List.forall_mem_cons.1 hf
    exact List.forall_mem_cons.2
      ⟨fun _ _ _ ht => built_typedValue value hfirst ht, built_fields rest hrest⟩

end

/-! ## Assignments -/

/-- What an assignment leaves under the key of an attribute was there, or is built of one of the
values. -/
theorem fieldBuilt_of_assign {target values result : Layout} (hv : values.Ordered)
    (ha : assign h strict classId target values = .ok result) {key : String}
    (hk : Key.isInternal key = false) (hr : result.get? key = some value) :
    target.get? key = some value ∨ FieldBuilt h classId values key value := by
  refine (get?_assign_cases ha hk hr).imp_right fun ⟨e, he, hw⟩ => ?_
  cases hw with
  | internal hint =>
    rw [hk] at hint
    cases hint
  | typed _ hattr htyped =>
    exact .field he hattr (built_typedValue _ ((Layout.ordered_iff.1 hv).2 _ he) htyped)

/-- A task with a subtask. -/
theorem fieldBuilt_subtask :
    Layout.Ordered [("tasks", .array [.object [("name", .string "x")]])] ∧
      assign .tasks true "Task" [] [("tasks", .array [.object [("name", .string "x")]])] =
        .ok [("_class", .string "Task"), ("tasks", .array
          [.object [("_class", .string "SubTask"), ("name", .string "x")]])] ∧
      FieldBuilt .tasks "Task" [("tasks", .array [.object [("name", .string "x")]])] "tasks"
        (.array [.object [("_class", .string "SubTask"), ("name", .string "x")]]) := by
  have hv : Layout.Ordered [("tasks", .array [.object [("name", .string "x")]])] := by decide
  have ha : assign .tasks true "Task" [] [("tasks", .array [.object [("name", .string "x")]])] =
      .ok [("_class", .string "Task"), ("tasks", .array
        [.object [("_class", .string "SubTask"), ("name", .string "x")]])] := rfl
  have hbuilt := fieldBuilt_of_assign hv ha (by decide : Key.isInternal "tasks" = false) rfl
  exact ⟨hv, ha, hbuilt.resolve_left (by simp [Keyed.get?])⟩

/-- A subtask names the class that its fields name, a foreign one too, and none where they have
anything but a text in its place. -/
theorem exists_foreign_class :
    (∃ fields layout, assign .tasks true "Task" [] [("tasks", .array [.object fields])] =
        .ok [("_class", .string "Task"), ("tasks", .array [.object layout])] ∧
      Hierarchy.tasks.embeddedClass (some "SubTask") fields = some "SubTask" ∧
      Hierarchy.tasks.concreteClass "SubTask" = .ok "SubTask" ∧
      Document.tag? layout = some "Person") ∧
    ∃ fields layout, assign .tasks true "Task" [] [("tasks", .array [.object fields])] =
        .ok [("_class", .string "Task"), ("tasks", .array [.object layout])] ∧
      Hierarchy.tasks.embeddedClass (some "SubTask") fields = some "SubTask" ∧
      Hierarchy.tasks.concreteClass "SubTask" = .ok "SubTask" ∧
      Document.tag? layout = none :=
  ⟨⟨[("_class", .string "Person"), ("name", .string "x")], _, rfl, by decide, rfl, rfl⟩,
    [("_class", .bool true), ("name", .string "x")], _, rfl, by decide, rfl, rfl⟩

end Assignment

end TypedDocs
