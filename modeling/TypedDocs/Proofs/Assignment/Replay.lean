import TypedDocs.Proofs.Assignment.Tags

/-!
# Assigning what was assigned

What an assignment has made can be assigned again, and gives itself: under the key of an attribute
stands what this attribute is typed as, a built object is typed by the class that it was built for,
and what was copied is copied again.  This needs two things of the given values: a key that names a
classifier has to be read for an attribute of a mixin, as that of a class is stored under its name
alone, and what stands under the key of the class has to be a text.

    value.Ordered → Replayable h type value → typedValue h strict name type value = .ok typed →
      typedValue h strict name type typed = .ok typed                              (replays_value)
    FieldsReplayable h typing fields → assignEntries h strict typing start fields = .ok layout →
      assignEntries h strict typing start layout = .ok layout               (assignEntries_replay)
-/

namespace TypedDocs.Assignment

/-! ## Definitions -/

mutual

/-- What is typed in a value, down to every depth, can be assigned again. -/
inductive Replayable (h : Hierarchy) : AttributeType → Value → Prop where
  | copied {type : AttributeType} {value : Value} (he : type.embeds value = false) :
    Replayable h type value
  | object {declared : String} {fields : Layout}
    (hfields : FieldsReplayable h ((h.embeddedClass (some declared) fields).getD declared) fields) :
    Replayable h (.instanceOf declared) (.object fields)
  | array {declared : String} {items : List Value}
    (hitems : ∀ item ∈ items, Replayable h (.instanceOf declared) item) :
    Replayable h (.arrayOf (.instanceOf declared)) (.array items)
  | bag {declared : String} {entries : Layout}
    (hentries : ∀ e ∈ entries, Replayable h (.instanceOf declared) e.2) :
    Replayable h (.bagOf (.instanceOf declared)) (.object entries)

/-- Fields that a class types can be assigned again: an entry for the class is a text, a key that
names a classifier is read for an attribute of a mixin, and so on in the values of attributes. -/
inductive FieldsReplayable (h : Hierarchy) : String → Layout → Prop where
  | intro {typing : String} {fields : Layout} (hclass : KeepsTag fields)
    (hmixin : ∀ e ∈ fields, Key.isInternal e.1 = false → h.ReadsMixin e.1)
    (htyped : ∀ e ∈ fields, ∀ attr, Key.isInternal e.1 = false →
      h.resolveKey typing e.1 = .ok attr → Replayable h attr.type e.2) :
    FieldsReplayable h typing fields

end

/-- Under every type that a value can be assigned again under, typing it twice is typing it once. -/
def Replays (h : Hierarchy) (strict : Bool) (value : Value) : Prop :=
  ∀ (name : String) (type : AttributeType) (typed : Value), Replayable h type value →
    typedValue h strict name type value = .ok typed →
      typedValue h strict name type typed = .ok typed

variable {h : Hierarchy} {strict : Bool} {classId declared typing base name : String}
  {type : AttributeType} {value typed : Value} {fields layout : Layout}

/-! ## Objects -/

theorem FieldsReplayable.keepsTag (hf : FieldsReplayable h typing fields) : KeepsTag fields := by
  obtain ⟨hclass, -, -⟩ := hf
  exact hclass

/-- A built object names the class that its fields name, else the one it started with. -/
theorem get?_classKey_of_assignEntries (hs : Keyed.Sorted fields) (hc : KeepsTag fields)
    (ha : assignEntries h strict typing [(Document.classKey, .string base)] fields = .ok layout) :
    layout.get? Document.classKey = some (.string ((Document.tag? fields).getD base)) := by
  rw [get?_assignEntries_of_isInternal (tag?_start base) hc hs.nodup ha
    Document.isInternal_classKey, Document.tag?]
  cases hgiven : Keyed.get? fields Document.classKey with
  | none =>
    rw [Keyed.get?, if_pos rfl]
    rfl
  | some given =>
    obtain ⟨tag, rfl⟩ : ∃ tag, given = .string tag := hc _ (Keyed.mem_of_get? hgiven) rfl
    rfl

/-- A built object is typed by the class that it was built for. -/
theorem embeddedClass_of_assignEntries (hs : Keyed.Sorted fields) (hc : KeepsTag fields)
    (htyping : (h.embeddedClass (some declared) fields).getD declared = typing)
    (hbase : h.concreteClass typing = .ok base)
    (ha : assignEntries h strict typing [(Document.classKey, .string base)] fields = .ok layout) :
    (h.embeddedClass (some declared) layout).getD declared = typing := by
  have htag : Document.tag? layout = some ((Document.tag? fields).getD base) := by
    rw [Document.tag?, get?_classKey_of_assignEntries hs hc ha]
    rfl
  cases hgiven : Document.tag? fields with
  | some tag =>
    rw [hgiven] at htag
    have hsame :
        h.embeddedClass (some declared) layout = h.embeddedClass (some declared) fields := by
      unfold Hierarchy.embeddedClass
      rw [htag, hgiven]
      rfl
    rw [hsame, htyping]
  | none =>
    have hdeclared : declared = typing := by
      rw [← htyping]
      unfold Hierarchy.embeddedClass
      rw [hgiven]
      rfl
    subst hdeclared
    rw [hgiven] at htag
    unfold Hierarchy.embeddedClass
    rw [htag]
    show (if h.isSubtype base declared then some base else some declared).getD declared = declared
    -- The object names the concrete class of the declared one, and this extends no mixin above it.
    by_cases hsub : h.isSubtype base declared = true
    · rw [if_pos hsub]
      exact Hierarchy.isSubtype_antisymm hsub (Hierarchy.isSubtype_concreteClass hbase)
    · rw [if_neg hsub]
      rfl

/-- What a field writes writes itself, if its typed value can be typed again. -/
theorem Writes.replay {e w : String × Value} (hw : Writes h strict typing e w)
    (hmixin : Key.isInternal e.1 = false → h.ReadsMixin e.1)
    (htyped : ∀ attr, Key.isInternal e.1 = false → h.resolveKey typing e.1 = .ok attr →
      ∀ typed, typedValue h strict attr.name attr.type e.2 = .ok typed →
        typedValue h strict attr.name attr.type typed = .ok typed) :
    Writes h strict typing w w := by
  cases hw with
  | internal hk => exact .internal hk
  | typed hk hattr ht =>
    have hwire := Hierarchy.isInternal_wire_of_resolveKey hattr
    have hagain := Hierarchy.resolveKey_wire (hmixin hk) hattr (.inl rfl)
    exact .typed hwire hagain (htyped _ hk hattr _ ht)

/-- A built object can be built of itself. -/
theorem assignEntries_replay (hs : Keyed.Sorted fields) (hf : FieldsReplayable h typing fields)
    (hr : ∀ e ∈ fields, Replays h strict e.2)
    (ha : assignEntries h strict typing [(Document.classKey, .string base)] fields = .ok layout) :
    assignEntries h strict typing [(Document.classKey, .string base)] layout = .ok layout := by
  obtain ⟨hclass, hmixin, htyped⟩ := hf
  have hnamed := get?_classKey_of_assignEntries hs hclass ha
  obtain ⟨writes, hws, hlayout⟩ := (assignEntries_eq_ok_iff (tag?_start base) hclass).1 ha
  have hstart : Keyed.Sorted [(Document.classKey, Value.string base)] := List.pairwise_singleton _ _
  have hsorted : Keyed.Sorted layout := hlayout ▸ hstart.overlay writes
  -- Every entry of the layout writes itself.
  have hself : ∀ w ∈ layout, Writes h strict typing w w := by
    intro w hw
    rw [hlayout] at hw
    rcases Keyed.mem_overlay hw with hw | hw
    · rw [List.mem_singleton.1 hw]
      exact .internal Document.isInternal_classKey
    · obtain ⟨e, he, hew⟩ := exists_of_mem_right hws hw
      refine hew.replay (hmixin e he) fun attr hk hattr typed ht => ?_
      exact hr e he _ _ _ (htyped e he attr hk hattr) ht
  have hkeeps : KeepsTag layout := by
    intro w hw hk
    have hvalue : layout.get? Document.classKey = some w.2 := by
      rw [← hk]
      exact hsorted.get?_eq_some_iff.2 hw
    rw [hnamed] at hvalue
    exact ⟨_, (Option.some.inj hvalue).symm⟩
  refine (assignEntries_eq_ok_iff (tag?_start base) hkeeps).2
    ⟨layout, List.forall₂_same.2 hself, ?_⟩
  refine hsorted.eq_of_get? (hstart.overlay layout) fun key => ?_
  rw [Keyed.get?_overlay hsorted.nodup]
  by_cases hk : key = Document.classKey
  · rw [hk, hnamed, Option.some_or]
  · rw [Keyed.get?, if_neg (Ne.symm hk), Keyed.get?_nil, Option.or_none]

/-! ## Values -/

/-- An object of fields that can be assigned again is built twice as once. -/
theorem replay_object (hs : Keyed.Sorted fields) (hr : ∀ e ∈ fields, Replays h strict e.2)
    (hf : FieldsReplayable h ((h.embeddedClass (some declared) fields).getD declared) fields)
    (ht : typedValue h strict name (.instanceOf declared) (.object fields) = .ok typed) :
    typedValue h strict name (.instanceOf declared) typed = .ok typed := by
  obtain ⟨typing, start, layout, hstart, hlayout, rfl⟩ := typedValue_object_eq_ok_iff.1 ht
  obtain ⟨htyping, base, hbase, rfl⟩ := startEmbedded_eq_ok hstart
  rw [← htyping] at hf
  have hagain := assignEntries_replay hs hf hr hlayout
  have htyping' := embeddedClass_of_assignEntries hs hf.keepsTag htyping.symm hbase hlayout
  have hstart' := startEmbedded_of_concreteClass htyping' hbase
  exact typedValue_object_eq_ok_iff.2 ⟨typing, _, layout, hstart', hagain, rfl⟩

theorem replay_items {items built : List Value} (hr : ∀ item ∈ items, Replays h strict item)
    (hi : ∀ item ∈ items, Replayable h (.instanceOf declared) item)
    (hb : embedItems h strict declared items = .ok built) :
    embedItems h strict declared built = .ok built := by
  refine embedItems_eq_ok_iff.2 (List.forall₂_same.2 fun b hm => ?_)
  obtain ⟨item, hitem, hembed⟩ := exists_of_mem_right (embedItems_eq_ok_iff.1 hb) hm
  have hsame (v : Value) : embed h strict declared v =
      typedValue h strict declared (.instanceOf declared) v := embed_eq_typedValue _ v
  rw [hsame] at hembed ⊢
  exact hr item hitem _ _ _ (hi item hitem) hembed

theorem replay_entries {entries built : Layout} (hr : ∀ e ∈ entries, Replays h strict e.2)
    (he : ∀ e ∈ entries, Replayable h (.instanceOf declared) e.2)
    (hb : embedEntries h strict declared entries = .ok built) :
    embedEntries h strict declared built = .ok built := by
  refine embedEntries_eq_ok_iff.2 (List.forall₂_same.2 fun b hm => ⟨rfl, ?_⟩)
  obtain ⟨e, hm', -, hembed⟩ := exists_of_mem_right (embedEntries_eq_ok_iff.1 hb) hm
  have hsame (v : Value) : embed h strict declared v =
      typedValue h strict declared (.instanceOf declared) v := embed_eq_typedValue _ v
  rw [hsame] at hembed ⊢
  exact hr e hm' _ _ _ (he e hm') hembed

mutual

/-- Typing a value twice is typing it once. -/
theorem replays_value : ∀ (value : Value), value.Ordered → Replays h strict value
  | .array items, hv => by
    intro name type typed hr ht
    have hitems := replays_items items (Value.ordered_array_iff.1 hv)
    cases hr with
    | copied he =>
      obtain rfl := eq_of_typedValue he ht
      exact ht
    | @array declared _ hi =>
      obtain ⟨built, hb, rfl⟩ := typedValue_items_eq_ok_iff.1 ht
      exact typedValue_items_eq_ok_iff.2 ⟨built, replay_items hitems hi hb, rfl⟩
  | .object fields, hv => by
    intro name type typed hr ht
    obtain ⟨hsorted, hall⟩ := Value.ordered_object_iff.1 hv
    have hfields := replays_fields fields hall
    cases hr with
    | copied he =>
      obtain rfl := eq_of_typedValue he ht
      exact ht
    | object hf => exact replay_object hsorted hfields hf ht
    | @bag declared _ he =>
      obtain ⟨built, hb, rfl⟩ := typedValue_entries_eq_ok_iff.1 ht
      exact typedValue_entries_eq_ok_iff.2 ⟨built, replay_entries hfields he hb, rfl⟩
  | .null, hv | .bool b, hv | .number b, hv | .string b, hv => by
    intro name type typed hr ht
    obtain rfl := eq_of_typedValue rfl ht
    exact ht

theorem replays_items : ∀ (items : List Value), (∀ item ∈ items, item.Ordered) →
    ∀ item ∈ items, Replays h strict item
  | [], _ => by simp
  | first :: rest, hi => by
    obtain ⟨hfirst, hrest⟩ := List.forall_mem_cons.1 hi
    exact List.forall_mem_cons.2 ⟨replays_value first hfirst, replays_items rest hrest⟩

theorem replays_fields : ∀ (fields : List (String × Value)), (∀ e ∈ fields, e.2.Ordered) →
    ∀ e ∈ fields, Replays h strict e.2
  | [], _ => by simp
  | (key, value) :: rest, hf => by
    obtain ⟨hfirst, hrest⟩ := List.forall_mem_cons.1 hf
    exact List.forall_mem_cons.2 ⟨replays_value value hfirst, replays_fields rest hrest⟩

end

/-! ## Main statement -/

/-- What assigning values to nothing has made, assigning it to nothing makes again; and typing a
value twice is typing it once. -/
theorem assign_replays (h : Hierarchy) (strict : Bool) :
    (∀ (classId : String) (values : Layout), values.Ordered → FieldsReplayable h classId values →
      ∀ result, assign h strict classId [] values = .ok result →
        assign h strict classId [] result = .ok result) ∧
    ∀ (name : String) (type : AttributeType) (value : Value), value.Ordered →
      Replayable h type value →
      (typedValue h strict name type value >>= typedValue h strict name type) =
        typedValue h strict name type value := by
  constructor
  · intro classId values hv hf result ha
    obtain ⟨hsorted, hall⟩ := Layout.ordered_iff.1 hv
    rw [assign] at ha
    cases hstart : withTag h classId [] with
    | error fault =>
      rw [hstart] at ha
      cases ha
    | ok start =>
      simp only [hstart] at ha
      obtain ⟨tag, htag, -⟩ | ⟨base, -, -, rfl⟩ := withTag_eq_ok hstart
      · cases htag
      · rw [assign, hstart]
        exact assignEntries_replay hsorted hf (replays_fields values hall) ha
  · intro name type value hv hr
    cases ht : typedValue h strict name type value with
    | error fault => rfl
    | ok typed => exact replays_value value hv name type typed hr ht

/-- An estimate of hours and a subtask; the second time the hours are named as they are stored. -/
theorem assign_replays_estimate :
    ∃ result, assign .tasks true "Estimate" []
        [("hours", .number (.integer 3)), ("tasks", .array [.object [("name", .string "x")]])] =
          .ok result ∧
      result.get? "hours|Estimate" = some (.number (.integer 3)) ∧
      assign .tasks true "Estimate" [] result = .ok result ∧
      (typedValue .tasks true "tasks" (.arrayOf (.instanceOf "SubTask"))
          (.array [.object [("name", .string "x")]]) >>=
        typedValue .tasks true "tasks" (.arrayOf (.instanceOf "SubTask"))) =
          typedValue .tasks true "tasks" (.arrayOf (.instanceOf "SubTask"))
            (.array [.object [("name", .string "x")]]) := by
  have hplain (key : String) (hp : Key.parse key = .plain key) :
      Hierarchy.ReadsMixin .tasks key := by
    intro name mixin r hq
    rw [hp] at hq
    cases hq
  have htasks : Hierarchy.resolveKey .tasks "Estimate" "tasks" =
      .ok ⟨⟨"tasks", .arrayOf (.instanceOf "SubTask")⟩, "Task", .plain "tasks"⟩ := rfl
  have hsub : Replayable .tasks (.arrayOf (.instanceOf "SubTask"))
      (.array [.object [("name", .string "x")]]) := by
    refine .array (List.forall_mem_singleton.2 (.object (.intro ?_ ?_ ?_)))
    · exact keepsTag_of_get? rfl
    · exact List.forall_mem_singleton.2 fun _ => hplain "name" rfl
    · exact List.forall_mem_singleton.2 fun attr _ _ => .copied rfl
  have hfields : FieldsReplayable .tasks "Estimate"
      [("hours", .number (.integer 3)), ("tasks", .array [.object [("name", .string "x")]])] := by
    refine .intro (keepsTag_of_get? rfl) ?_ ?_
    · simp only [List.forall_mem_cons]
      exact ⟨fun _ => hplain "hours" rfl, fun _ => hplain "tasks" rfl, by simp⟩
    · simp only [List.forall_mem_cons]
      refine ⟨fun attr _ hattr => .copied rfl, fun attr _ hattr => ?_, by simp⟩
      rw [htasks] at hattr
      cases hattr
      exact hsub
  obtain ⟨hassign, htyped⟩ := assign_replays .tasks true
  exact ⟨_, rfl, rfl, hassign "Estimate" _ (by decide) hfields _ rfl,
    htyped "tasks" _ _ (by decide) hsub⟩

end TypedDocs.Assignment
