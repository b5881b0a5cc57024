import TypedDocs.Caching.Query
import TypedDocs.Proofs.Caching.Agreement
import TypedDocs.Proofs.Query.Steps
import TypedDocs.Store.Search

/-!
# The caches in queries

A query gives with faithful caches what it gives without them, and leaves them faithful, by the
recursion of the comparison:

    Agrees h (matchValue h full declared value query).run
      (Query.matchValue h full declared value query)                             (agrees_matchValue)
-/

namespace TypedDocs.Caching

open Query (Verdict sizeOf_get?_lt)

variable {ρ : Type} [Pattern.Engine ρ] {h : Hierarchy} {full : Bool}

/-! ## Patterns -/

/-- What a query that asks for a pattern compiles is the pattern that it asks for. -/
theorem askedPattern_of_pattern? {query : Layout} {asked : String × String}
    (hp : Query.pattern? query = some asked) : Query.askedPattern query = asked := by
  obtain ⟨text, htext, rfl⟩ := Option.map_eq_some_iff.1 hp
  rw [Query.askedPattern, htext]
  rfl

theorem agrees_testPattern {query : Layout} {asked : String × String}
    (hp : Query.pattern? query = some asked) (value : Value) :
    Agrees h (testPattern query value : Caching ρ Fault Bool).run
      (Query.testPattern asked.1 asked.2 value) := by
  have hdirect : Query.testPattern asked.1 asked.2 value =
      Query.compile Pattern.Engine.build query >>= fun p : ρ =>
        .ok (value.string?.any (Pattern.Engine.occursIn p)) := by
    rw [Query.testPattern, Query.compile, askedPattern_of_pattern? hp, Pattern.compile]
    cases Pattern.compileWith Pattern.Engine.build asked.1 asked.2 <;> rfl
  rw [hdirect]
  exact (agrees_compile h query).bindOk fun p => agrees_ok _

theorem agrees_missUndeclared {work : Caching ρ Fault Bool} {result : Except Fault Bool}
    (hw : Agrees h work.run result) :
    Agrees h (missUndeclared work).run (Query.missUndeclared result) := by
  have hverdict := hw.map Verdict.ofBool
  cases result with
  | ok b => exact hverdict.uncaught
  | error fault =>
    cases fault with
    | attributeNotFound classId name => exact hverdict.caught (agrees_ok _)
    | _ => exact hverdict.caught (agrees_error _)

/-! ## Steps -/

/-- Compares what is stored for an attribute. -/
def matchTyped (h : Hierarchy) (full : Bool) (attr : ResolvedAttribute) (value wanted : Value) :
    Caching ρ Fault Bool :=
  match attr.type with
  | .bagOf _ => matchBag h full attr.elementClass value wanted
  | _ => Verdict.isHit <$> matchValue h full attr.elementClass value wanted

theorem matchFields_cons {classId key : String} {wanted : Value} {layout rest : Layout} :
    (matchFields h full classId layout ((key, wanted) :: rest) : Caching ρ Fault Bool) =
      if wanted.isNull then matchFields h full classId layout rest
      else if Key.isInternal key then
        match layout.get? key with
        | none => pure false
        | some value => matchValue h full none value wanted >>= fun v =>
          if v.isHit then matchFields h full classId layout rest else pure false
      else resolveKey h classId key >>= fun attr =>
        match layout.get? attr.wire with
        | none => pure false
        | some value => matchTyped h full attr value wanted >>= fun matched =>
          if matched then matchFields h full classId layout rest else pure false := by
  rw [matchFields]
  split
  · rfl
  · split
    · split
      · next hv => simp only [hv]
      · next value hv => simp only [hv]
    · congr 1
      funext attr
      split
      · next hv => simp only [hv]
      · next value hv =>
        simp only [hv]
        unfold matchTyped
        cases attr.type <;> rfl

theorem matchEntries_cons {declared : Option String} {key : String} {wanted : Value}
    {bag rest : Layout} :
    (matchEntries h full declared bag ((key, wanted) :: rest) : Caching ρ Fault Bool) =
      if wanted.isNull then matchEntries h full declared bag rest
      else match bag.get? key with
        | none => pure false
        | some entry => matchValue h full declared entry wanted >>= fun v =>
          if v.isHit then matchEntries h full declared bag rest else pure false := by
  rw [matchEntries]
  split
  · rfl
  · split
    · next hv => simp only [hv]
    · next entry hv => simp only [hv]

/-! ## Comparisons -/

mutual

theorem agrees_matchValue (value query : Value) {declared : Option String} :
    Agrees h (matchValue h full declared value query : Caching ρ Fault Verdict).run
      (Query.matchValue h full declared value query) := by
  cases value with
  | array items =>
    by_cases hpatterns : ∃ patterns, query = .array patterns
    · obtain ⟨patterns, rfl⟩ := hpatterns
      rw [matchValue, Query.matchValue]
      split
      · exact agrees_ok _
      · exact agrees_matchPlaces items patterns
    · have hother : ∀ patterns, query ≠ .array patterns := fun ps he => hpatterns ⟨ps, he⟩
      rw [Query.matchValue_array_other hother, matchValue]
      · exact agrees_matchAny items 0 query
      · exact hother
  | object fields =>
    by_cases hwanted : ∃ wanted, query = .object wanted
    · obtain ⟨wanted, rfl⟩ := hwanted
      rw [matchValue, Query.matchValue]
      split
      · exact agrees_ok _
      · cases h.embeddedClass declared fields with
        | none => exact agrees_ok _
        | some c => exact agrees_missUndeclared (agrees_matchFields fields wanted)
    · have hother : ∀ wanted, query ≠ .object wanted := fun wanted he => hwanted ⟨wanted, he⟩
      rw [Query.matchValue_object_other hother, matchValue]
      · exact agrees_ok _
      · exact hother
  | null | bool b | number n | string s =>
    by_cases hwanted : ∃ wanted, query = .object wanted
    · obtain ⟨wanted, rfl⟩ := hwanted
      rw [matchValue, Query.matchValue_leaf_object (by simp) (by simp)]
      · cases hp : Query.pattern? wanted with
        | none => exact agrees_ok _
        | some asked => exact (agrees_testPattern hp _).map Verdict.ofBool
      all_goals simp
    · have hother : ∀ wanted, query ≠ .object wanted := fun wanted he => hwanted ⟨wanted, he⟩
      rw [Query.matchValue_leaf_other (by simp) (by simp) hother, matchValue]
      · exact agrees_ok _
      all_goals simp [hother]
termination_by (sizeOf value, 0)

theorem agrees_matchPlaces (items patterns : List Value) {declared : Option String} :
    Agrees h (matchPlaces h full declared items patterns : Caching ρ Fault Verdict).run
      (Query.matchPlaces h full declared items patterns) := by
  cases patterns with
  | nil =>
    rw [matchPlaces, Query.matchPlaces]
    exact agrees_ok _
  | cons p patterns =>
    cases items with
    | nil =>
      rw [matchPlaces, Query.matchPlaces]
      exact agrees_ok _
    | cons item items =>
      rw [matchPlaces, Query.matchPlaces]
      refine (agrees_matchValue item p).bindOk fun v => ?_
      split
      · exact agrees_ok _
      · exact agrees_matchPlaces items patterns
termination_by (sizeOf items, 0)

theorem agrees_matchAny (items : List Value) (index : Nat) (query : Value)
    {declared : Option String} :
    Agrees h (matchAny h full declared index items query : Caching ρ Fault Verdict).run
      (Query.matchAny h full declared index items query) := by
  cases items with
  | nil =>
    rw [matchAny, Query.matchAny]
    exact agrees_ok _
  | cons item items =>
    rw [matchAny, Query.matchAny]
    refine (agrees_matchValue item query).bindOk fun v => ?_
    split
    · exact agrees_ok _
    · exact agrees_matchAny items (index + 1) query
termination_by (sizeOf items, 0)

theorem agrees_matchFields (layout query : Layout) {classId : String} :
    Agrees h (matchFields h full classId layout query : Caching ρ Fault Bool).run
      (Query.matchFields h full classId layout query) := by
  cases query with
  | nil =>
    rw [matchFields, Query.matchFields]
    exact agrees_ok _
  | cons entry rest =>
    obtain ⟨key, wanted⟩ := entry
    have hrest : Agrees h (matchFields h full classId layout rest : Caching ρ Fault Bool).run
        (Query.matchFields h full classId layout rest) := agrees_matchFields layout rest
    rw [matchFields_cons, Query.matchFields_cons]
    split
    · exact hrest
    · split
      · cases hv : Keyed.get? layout key with
        | none => exact agrees_ok _
        | some value =>
          have hsize := sizeOf_get?_lt hv
          refine (agrees_matchValue value wanted).bindOk fun v => ?_
          split
          · exact hrest
          · exact agrees_ok _
      · refine (agrees_resolveKey h classId key).bindOk fun attr => ?_
        cases hv : Keyed.get? layout attr.wire with
        | none => exact agrees_ok _
        | some value =>
          have hsize := sizeOf_get?_lt hv
          have htyped : Agrees h (matchTyped h full attr value wanted : Caching ρ Fault Bool).run
              (Query.matchTyped h full attr value wanted) := by
            rw [matchTyped, Query.matchTyped]
            cases attr.type with
            | bagOf element => exact agrees_matchBag value wanted
            | _ => exact (agrees_matchValue value wanted).map Verdict.isHit
          refine htyped.bindOk fun matched => ?_
          split
          · exact hrest
          · exact agrees_ok _
termination_by (sizeOf layout, query.length)

theorem agrees_matchBag (value query : Value) {declared : Option String} :
    Agrees h (matchBag h full declared value query : Caching ρ Fault Bool).run
      (Query.matchBag h full declared value query) := by
  by_cases hobject : ∃ bag patterns, value = .object bag ∧ query = .object patterns
  · obtain ⟨bag, patterns, rfl, rfl⟩ := hobject
    rw [matchBag, Query.matchBag]
    exact agrees_matchEntries bag patterns
  · have hother : ∀ bag patterns, value = .object bag → query = .object patterns → False :=
      fun bag patterns hbag hpatterns => hobject ⟨bag, patterns, hbag, hpatterns⟩
    rw [matchBag, Query.matchBag]
    · exact agrees_ok _
    · exact hother
    · exact hother
termination_by (sizeOf value, 0)

theorem agrees_matchEntries (bag patterns : Layout) {declared : Option String} :
    Agrees h (matchEntries h full declared bag patterns : Caching ρ Fault Bool).run
      (Query.matchEntries h full declared bag patterns) := by
  cases patterns with
  | nil =>
    rw [matchEntries, Query.matchEntries]
    exact agrees_ok _
  | cons entry rest =>
    obtain ⟨key, wanted⟩ := entry
    have hrest : Agrees h (matchEntries h full declared bag rest : Caching ρ Fault Bool).run
        (Query.matchEntries h full declared bag rest) := agrees_matchEntries bag rest
    rw [matchEntries_cons, Query.matchEntries_cons]
    split
    · exact hrest
    · cases hv : Keyed.get? bag key with
      | none => exact agrees_ok _
      | some entry =>
        have hsize := sizeOf_get?_lt hv
        refine (agrees_matchValue entry wanted).bindOk fun v => ?_
        split
        · exact hrest
        · exact agrees_ok _
termination_by (sizeOf bag, patterns.length)

end

/-! ## Documents -/

theorem agrees_matchDocument (id : String) (doc : Document) (query : Layout) :
    Agrees h (matchDocument h id doc query : Caching ρ Fault Bool).run
      (Query.matchDocument h id doc query) := by
  rw [matchDocument, Query.matchDocument]
  split
  · exact agrees_matchFields doc query
  · exact agrees_ok _

theorem agrees_matching (classId : String) (query : Layout) (docs : List Document) :
    Agrees h (matching h classId query docs : Caching ρ Fault (List Document)).run
      (Store.matching h classId query docs) := by
  induction docs with
  | nil => exact agrees_ok _
  | cons doc docs ih =>
    rw [matching, Store.matching]
    refine (agrees_matchDocument classId doc query).bindOk fun hit => ?_
    exact ih.bindOk fun rest => agrees_ok _

end TypedDocs.Caching
