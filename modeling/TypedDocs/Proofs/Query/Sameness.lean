import TypedDocs.Pattern.Basic
import TypedDocs.Proofs.Hierarchy.Resolution
import TypedDocs.Proofs.Query.Steps
import TypedDocs.Proofs.Value.Sameness

/-!
# Matching respects sameness

A comparison branches on the form of a value, on the class that an object names, on a pattern and on
`null`.  Values that are the same agree in all of these, so that either may stand for the other in a
comparison with a query, at any depth and on either side: the verdict and the fault are the same.

    v.sameValue v' → q.sameValue q' →
      matchValue h full declared v q = matchValue h full declared v' q'
                                                                    (matching_respects_sameness)
-/

namespace TypedDocs

variable {h : Hierarchy} {fields gs : Layout}

/-! ## What is read off an object -/

theorem Hierarchy.embeddedClass_congr (hs : Value.sameFields fields gs = true)
    (declared : Option String) :
    h.embeddedClass declared fields = h.embeddedClass declared gs := by
  have htag : Document.tag? fields = Document.tag? gs := Value.text_congr hs Document.classKey
  unfold embeddedClass
  rw [htag]

namespace Query

section Engine

variable {ρ : Type} [Pattern.Engine ρ]
variable {full : Bool} {declared : Option String}

theorem pattern?_congr (hs : Value.sameFields fields gs = true) : pattern? fields = pattern? gs := by
  rw [pattern?, pattern?, Value.text_congr hs patternKey, Value.text_congr hs optionsKey]

theorem testPattern_congr {value value' : Value} (hv : value.sameValue value' = true)
    (pattern options : String) :
    testPattern pattern options value = testPattern pattern options value' := by
  rw [testPattern, testPattern, Value.string?_congr hv]

/-! ## Comparisons -/

/-- What is neither an array nor an object is compared without looking further. -/
theorem matchValue_leaf_congr {value value' query query' : Value}
    (ha : ∀ items, value ≠ .array items) (ho : ∀ fields, value ≠ .object fields)
    (hv : value.sameValue value' = true) (hq : query.sameValue query' = true) :
    matchValue h full declared value query = matchValue h full declared value' query' := by
  have ha' := Value.ne_array_congr hv ha
  have ho' := Value.ne_object_congr hv ho
  have hsame := Value.sameValue_congr hv hq
  by_cases hwanted : ∃ wanted, query = .object wanted
  · obtain ⟨wanted, rfl⟩ := hwanted
    obtain ⟨wanted', rfl, hfields⟩ := Value.sameValue_object_iff.1 hq
    have htest : ∀ p : String × String, testPattern p.1 p.2 value = testPattern p.1 p.2 value' :=
      fun p => testPattern_congr hv p.1 p.2
    rw [matchValue_leaf_object ha ho, matchValue_leaf_object ha' ho', pattern?_congr hfields,
      hsame]
    simp only [htest]
  · have hother : ∀ wanted, query ≠ .object wanted := fun wanted he => hwanted ⟨wanted, he⟩
    rw [matchValue_leaf_other ha ho hother,
      matchValue_leaf_other ha' ho' (Value.ne_object_congr hq hother), hsame]

mutual

theorem matchValue_congr (value query : Value) {declared : Option String} {value' query' : Value}
    (hv : value.sameValue value' = true) (hq : query.sameValue query' = true) :
    matchValue h full declared value query = matchValue h full declared value' query' := by
  cases value with
  | array items =>
    obtain ⟨others, rfl, hitems⟩ := Value.sameValue_array_iff.1 hv
    by_cases hpatterns : ∃ patterns, query = .array patterns
    · obtain ⟨patterns, rfl⟩ := hpatterns
      obtain ⟨patterns', rfl, hp⟩ := Value.sameValue_array_iff.1 hq
      rw [matchValue, matchValue, Value.length_eq_of_sameItems hitems,
        Value.length_eq_of_sameItems hp, matchPlaces_congr items patterns hitems hp]
    · have hother : ∀ patterns, query ≠ .array patterns := fun ps he => hpatterns ⟨ps, he⟩
      rw [matchValue_array_other hother, matchValue_array_other (Value.ne_array_congr hq hother)]
      exact matchAny_congr items 0 hitems hq
  | object fields =>
    obtain ⟨gs, rfl, hfields⟩ := Value.sameValue_object_iff.1 hv
    have hsame := Value.sameValue_congr hv hq
    by_cases hwanted : ∃ wanted, query = .object wanted
    · obtain ⟨wanted, rfl⟩ := hwanted
      obtain ⟨wanted', rfl, hw⟩ := Value.sameValue_object_iff.1 hq
      rw [matchValue, matchValue, pattern?_congr hw, hsame, Hierarchy.embeddedClass_congr hfields]
      split
      · rfl
      · split
        · rw [matchFields_congr fields wanted hfields hw]
        · rfl
    · have hother : ∀ wanted, query ≠ .object wanted := fun wanted he => hwanted ⟨wanted, he⟩
      rw [matchValue_object_other hother, matchValue_object_other (Value.ne_object_congr hq hother),
        hsame]
  | null | bool b | number n | string s => exact matchValue_leaf_congr (by simp) (by simp) hv hq
termination_by (sizeOf value, 0)

theorem matchPlaces_congr (items patterns : List Value) {declared : Option String}
    {items' patterns' : List Value} (hi : Value.sameItems items items' = true)
    (hp : Value.sameItems patterns patterns' = true) :
    matchPlaces h full declared items patterns = matchPlaces h full declared items' patterns' := by
  cases patterns with
  | nil =>
    obtain rfl := Value.sameItems_nil_iff.1 hp
    rw [matchPlaces, matchPlaces]
  | cons p patterns =>
    obtain ⟨p', ps', rfl, hpat, hpats⟩ := Value.sameItems_cons_iff.1 hp
    cases items with
    | nil =>
      obtain rfl := Value.sameItems_nil_iff.1 hi
      rw [matchPlaces, matchPlaces]
    | cons item items =>
      obtain ⟨item', others, rfl, hitem, hitems⟩ := Value.sameItems_cons_iff.1 hi
      rw [matchPlaces, matchPlaces, matchValue_congr item p hitem hpat,
        matchPlaces_congr items patterns hitems hpats]
termination_by (sizeOf items, 0)

theorem matchAny_congr (items : List Value) (index : Nat) {declared : Option String}
    {items' : List Value} {query query' : Value} (hi : Value.sameItems items items' = true)
    (hq : query.sameValue query' = true) :
    matchAny h full declared index items query = matchAny h full declared index items' query' := by
  cases items with
  | nil =>
    obtain rfl := Value.sameItems_nil_iff.1 hi
    rw [matchAny, matchAny]
  | cons item items =>
    obtain ⟨item', others, rfl, hitem, hitems⟩ := Value.sameItems_cons_iff.1 hi
    rw [matchAny, matchAny, matchValue_congr item query hitem hq,
      matchAny_congr items (index + 1) hitems hq]
termination_by (sizeOf items, 0)

theorem matchFields_congr (layout query : Layout) {classId : String} {layout' query' : Layout}
    (hl : Value.sameFields layout layout' = true) (hq : Value.sameFields query query' = true) :
    matchFields h full classId layout query = matchFields h full classId layout' query' := by
  cases query with
  | nil =>
    obtain rfl := Value.sameFields_nil_iff.1 hq
    rw [matchFields, matchFields]
  | cons entry rest =>
    obtain ⟨key, wanted⟩ := entry
    obtain ⟨wanted', rest', rfl, hwanted, hrest⟩ := Value.sameFields_cons_iff.1 hq
    rw [matchFields_cons, matchFields_cons, Value.isNull_congr hwanted,
      matchFields_congr layout rest hl hrest]
    split
    · rfl
    · split
      · rcases Value.get?_of_sameFields hl key with
          ⟨hnone, hnone'⟩ | ⟨value, value', hget, hget', hvalue⟩
        · rw [hnone, hnone']
        · have hsize := sizeOf_get?_lt hget
          rw [hget, hget']
          simp only [matchValue_congr value wanted hvalue hwanted]
      · cases h.resolveKey classId key with
        | error fault => rfl
        | ok attr =>
          rw [ok_bind, ok_bind]
          rcases Value.get?_of_sameFields hl attr.wire with
            ⟨hnone, hnone'⟩ | ⟨value, value', hget, hget', hvalue⟩
          · rw [hnone, hnone']
          · have hsize := sizeOf_get?_lt hget
            have htyped : matchTyped h full attr value wanted =
                matchTyped h full attr value' wanted' := by
              simp only [matchTyped, matchBag_congr value wanted hvalue hwanted,
                matchValue_congr value wanted hvalue hwanted]
            rw [hget, hget']
            simp only [htyped]
termination_by (sizeOf layout, query.length)

theorem matchBag_congr (value query : Value) {declared : Option String} {value' query' : Value}
    (hv : value.sameValue value' = true) (hq : query.sameValue query' = true) :
    matchBag h full declared value query = matchBag h full declared value' query' := by
  by_cases hobject : ∃ bag patterns, value = .object bag ∧ query = .object patterns
  · obtain ⟨bag, patterns, rfl, rfl⟩ := hobject
    obtain ⟨bag', rfl, hb⟩ := Value.sameValue_object_iff.1 hv
    obtain ⟨patterns', rfl, hp⟩ := Value.sameValue_object_iff.1 hq
    rw [matchBag, matchBag, matchEntries_congr bag patterns hb hp]
  · have hother : ∀ bag patterns, value = .object bag → query = .object patterns → False :=
      fun bag patterns hbag hpatterns => hobject ⟨bag, patterns, hbag, hpatterns⟩
    have hother' : ∀ bag patterns, value' = .object bag → query' = .object patterns → False := by
      rintro bag patterns rfl rfl
      rw [Value.sameValue_comm] at hv hq
      obtain ⟨bag', rfl, -⟩ := Value.sameValue_object_iff.1 hv
      obtain ⟨patterns', rfl, -⟩ := Value.sameValue_object_iff.1 hq
      exact hother bag' patterns' rfl rfl
    rw [matchBag, matchBag, Value.sameValue_congr hv hq]
    · exact hother'
    · exact hother
termination_by (sizeOf value, 0)

theorem matchEntries_congr (bag patterns : Layout) {declared : Option String}
    {bag' patterns' : Layout} (hb : Value.sameFields bag bag' = true)
    (hp : Value.sameFields patterns patterns' = true) :
    matchEntries h full declared bag patterns = matchEntries h full declared bag' patterns' := by
  cases patterns with
  | nil =>
    obtain rfl := Value.sameFields_nil_iff.1 hp
    rw [matchEntries, matchEntries]
  | cons entry rest =>
    obtain ⟨key, wanted⟩ := entry
    obtain ⟨wanted', rest', rfl, hwanted, hrest⟩ := Value.sameFields_cons_iff.1 hp
    rw [matchEntries_cons, matchEntries_cons, Value.isNull_congr hwanted,
      matchEntries_congr bag rest hb hrest]
    rcases Value.get?_of_sameFields hb key with ⟨hnone, hnone'⟩ | ⟨entry, entry', hget, hget', he⟩
    · rw [hnone, hnone']
    · have hsize := sizeOf_get?_lt hget
      rw [hget, hget']
      simp only [matchValue_congr entry wanted he hwanted]
termination_by (sizeOf bag, patterns.length)

end

/-! ## One value for another -/

/-- Being the same is an equivalence of values, which looks at numbers through their binary64 images
and into objects key by key, and nothing that a comparison with a query gives, a fault included,
changes with the value or the query that is taken among the same ones. -/
theorem matching_respects_sameness :
    (Equivalence fun v w : Value => v.sameValue w = true) ∧
    (∀ m n : Number, (Value.number m).sameValue (.number n) =
      m.toBinary64.sameValue n.toBinary64) ∧
    (∀ fields gs : Layout, fields.Sorted → gs.Sorted →
      ((Value.object fields).sameValue (.object gs) = true ↔ fields.length = gs.length ∧
        ∀ key v, fields.get? key = some v → ∃ w, gs.get? key = some w ∧ v.sameValue w = true)) ∧
    ∀ (h : Hierarchy) (full : Bool) (declared : Option String) (value value' query query' : Value),
      value.sameValue value' = true → query.sameValue query' = true →
      matchValue h full declared value query = matchValue h full declared value' query' := by
  refine ⟨Value.equivalence_sameValue, ?_, ?_, ?_⟩
  · intro m n
    rw [Value.sameValue, Number.sameValue]
  · intro fields gs hf hg
    rw [Value.sameValue]
    exact Value.sameFields_iff_included hf hg
  · intro h full declared value value' query query' hv hq
    exact matchValue_congr value query hv hq

/-- A subtask with a rate. -/
def ratedSubtask (rate : Number) : Value :=
  .object [("_class", .string "SubTask"), ("rate", .number rate)]

/-- The query for a rate. -/
def askedRate (rate : Number) : Value := .object [("rate", .number rate)]

theorem matchValue_ratedSubtask (rate wanted : Number) :
    matchValue .tasks full (some "SubTask") (ratedSubtask rate) (askedRate wanted) =
      .ok (.ofBool (rate.sameValue wanted)) := by
  have hattr : Hierarchy.tasks.resolveKey "SubTask" "rate" =
      .ok ⟨⟨"rate", .number⟩, "SubTask", .plain "rate"⟩ := rfl
  have hleaf : matchValue .tasks full none (.number rate) (.number wanted) =
      .ok (.ofBool (rate.sameValue wanted)) := by
    rw [matchValue_leaf_other (by simp) (by simp) (by simp), Value.sameValue]
  have hfield : matchFields .tasks full "SubTask"
      [("_class", .string "SubTask"), ("rate", .number rate)] [("rate", .number wanted)] =
        .ok (rate.sameValue wanted) := by
    rw [matchFields_cons, hattr]
    show (matchValue .tasks full none (.number rate) (.number wanted)).map Verdict.isHit >>= _ = _
    rw [hleaf]
    cases rate.sameValue wanted with
    | false => rfl
    | true =>
      rw [matchFields]
      rfl
  have hpattern : pattern? [("rate", .number wanted)] = none := rfl
  have hclass : Hierarchy.tasks.embeddedClass (some "SubTask")
      [("_class", .string "SubTask"), ("rate", .number rate)] = some "SubTask" := rfl
  rw [ratedSubtask, askedRate, matchValue, hpattern, hclass]
  show missUndeclared (matchFields _ _ _ _ _) = _
  rw [hfield, missUndeclared]

end Engine

/-- Of two subtasks the second has the rate 31, written as a whole number or not, here or there. -/
theorem matching_respects_sameness_rate :
    (Number.integer 31).sameValue (.double (.ofInt 31)) = true ∧
    matchValue .tasks true (some "SubTask")
      (.array [ratedSubtask (.integer 30), ratedSubtask (.integer 31)])
      (askedRate (.double (.ofInt 31))) = .ok (.hitAt 1) ∧
    matchValue .tasks true (some "SubTask")
      (.array [ratedSubtask (.integer 30), ratedSubtask (.double (.ofInt 31))])
      (askedRate (.integer 31)) = .ok (.hitAt 1) := by
  have hwhole : matchValue .tasks true (some "SubTask")
      (.array [ratedSubtask (.integer 30), ratedSubtask (.integer 31)])
      (askedRate (.double (.ofInt 31))) = .ok (.hitAt 1) := by
    rw [matchValue_array_other (by simp [askedRate]), matchAny, matchValue_ratedSubtask, ok_bind,
      matchAny, matchValue_ratedSubtask, ok_bind]
    decide
  refine ⟨by decide, hwhole, ?_⟩
  rw [← hwhole]
  symm
  exact matching_respects_sameness.2.2.2 _ _ _ _ _ _ _ (by decide) (by decide)

end Query

end TypedDocs
