import TypedDocs.Query

/-!
# Steps of a comparison

A query is compared entry by entry: the first one asks for nothing, or is a miss, or what is stored
under its key is compared with it, and then the rest of the query decides.

    matchFields h full c layout ((key, wanted) :: rest) = …                      (matchFields_cons)
    matchEntries h full declared bag ((key, wanted) :: rest) = …                (matchEntries_cons)

So a query of fields gives what the first of its entries gives that does not match when it is asked
for alone, and is a match where there is none (`matchFields_cases`).
-/

namespace TypedDocs.Query

variable {ρ : Type} [Pattern.Engine ρ]
variable {h : Hierarchy} {full : Bool} {declared : Option String} {value query wanted : Value}
  {items : List Value} {classId key : String} {fields layout rest bag : Layout}

/-! ## Values -/

theorem matchValue_array_array {patterns : List Value} :
    matchValue h full declared (.array items) (.array patterns) =
      if full && items.length != patterns.length then .ok .miss
      else matchPlaces h full declared items patterns := by
  rw [matchValue]

theorem matchValue_array_other (hq : ∀ patterns, query ≠ .array patterns) :
    matchValue h full declared (.array items) query = matchAny h full declared 0 items query := by
  rw [matchValue]
  exact hq

theorem matchValue_object_other (hq : ∀ wanted, query ≠ .object wanted) :
    matchValue h full declared (.object fields) query =
      .ok (.ofBool ((Value.object fields).sameValue query)) := by
  rw [matchValue]
  exact hq

/-- Anything but an array and an object is searched for the pattern of a query that has one. -/
theorem matchValue_leaf_object (ha : ∀ items, value ≠ .array items)
    (ho : ∀ fields, value ≠ .object fields) :
    matchValue h full declared value (.object fields) =
      (pattern? fields).elim (.ok (.ofBool (value.sameValue (.object fields))))
        fun p => (testPattern p.1 p.2 value).map .ofBool := by
  rw [matchValue]
  · cases pattern? fields <;> rfl
  · exact ha
  · exact ho

theorem matchValue_leaf_other (ha : ∀ items, value ≠ .array items)
    (ho : ∀ fields, value ≠ .object fields) (hq : ∀ wanted, query ≠ .object wanted) :
    matchValue h full declared value query = .ok (.ofBool (value.sameValue query)) := by
  rw [matchValue]
  · exact ha
  · exact ho
  · exact hq

/-- A place that matches leaves the rest of the places to decide. -/
theorem matchPlaces_cons_of_hit {item p : Value} {patterns : List Value}
    (hv : matchValue h full declared item p = .ok .hit) :
    matchPlaces h full declared (item :: items) (p :: patterns) =
      matchPlaces h full declared items patterns := by
  rw [matchPlaces, hv, ok_bind]
  simp [Verdict.isHit]

/-! ## Fields and entries -/

/-- Compares what is stored for an attribute. -/
def matchTyped (h : Hierarchy) (full : Bool) (attr : ResolvedAttribute) (value wanted : Value) :
    Except Fault Bool :=
  match attr.type with
  | .bagOf _ => matchBag h full attr.elementClass value wanted
  | _ => (matchValue h full attr.elementClass value wanted).map Verdict.isHit

theorem matchFields_cons :
    matchFields h full classId layout ((key, wanted) :: rest) =
      if wanted.isNull then matchFields h full classId layout rest
      else if Key.isInternal key then
        match layout.get? key with
        | none => .ok false
        | some value => matchValue h full none value wanted >>= fun v =>
          if v.isHit then matchFields h full classId layout rest else .ok false
      else h.resolveKey classId key >>= fun attr =>
        match layout.get? attr.wire with
        | none => .ok false
        | some value => matchTyped h full attr value wanted >>= fun matched =>
          if matched then matchFields h full classId layout rest else .ok false := by
  rw [matchFields]
  split
  · rfl
  · split
    · split
      · next hv => simp only [hv]
      · next value hv => simp only [hv]
    · cases h.resolveKey classId key with
      | error fault => rfl
      | ok attr =>
        simp only [ok_bind]
        split
        · next hv => simp only [hv]
        · next value hv =>
          simp only [hv]
          unfold matchTyped
          cases attr.type <;> rfl

theorem matchEntries_cons :
    matchEntries h full declared bag ((key, wanted) :: rest) =
      if wanted.isNull then matchEntries h full declared bag rest
      else match bag.get? key with
        | none => .ok false
        | some entry => matchValue h full declared entry wanted >>= fun v =>
          if v.isHit then matchEntries h full declared bag rest else .ok false := by
  rw [matchEntries]
  split
  · rfl
  · split
    · next hv => simp only [hv]
    · next entry hv => simp only [hv]

/-! ## The first entry that does not match -/

section Entries

variable {e : String × Value} {before after asked : Layout}

/-- The first entry is compared as if it were asked for alone. -/
theorem matchFields_cons_eq_bind :
    matchFields h full classId layout (e :: rest) =
      matchFields h full classId layout [e] >>= fun matched =>
        if matched then matchFields h full classId layout rest else .ok false := by
  have hnil : matchFields h full classId layout [] = .ok true := by rw [matchFields]
  obtain ⟨key, wanted⟩ := e
  rw [matchFields_cons, matchFields_cons, hnil]
  split
  · rfl
  · split
    · cases layout.get? key with
      | none => rfl
      | some value =>
        simp only
        cases matchValue h full none value wanted with
        | error fault => rfl
        | ok v => cases hv : v.isHit <;> simp [hv]
    · cases h.resolveKey classId key with
      | error fault => rfl
      | ok attr =>
        simp only [ok_bind]
        cases layout.get? attr.wire with
        | none => rfl
        | some value =>
          simp only
          cases matchTyped h full attr value wanted with
          | error fault => rfl
          | ok matched => cases matched <;> rfl

theorem matchFields_append
    (hb : ∀ a ∈ before, matchFields h full classId layout [a] = .ok true) :
    matchFields h full classId layout (before ++ after) =
      matchFields h full classId layout after := by
  induction before with
  | nil => rfl
  | cons a before ih =>
    obtain ⟨ha, hbefore⟩ := List.forall_mem_cons.1 hb
    rw [List.cons_append, matchFields_cons_eq_bind, ha, ok_bind, if_pos rfl, ih hbefore]

theorem matchFields_cons_of_ne (he : matchFields h full classId layout [e] ≠ .ok true) :
    matchFields h full classId layout (e :: rest) = matchFields h full classId layout [e] := by
  rw [matchFields_cons_eq_bind]
  cases hm : matchFields h full classId layout [e] with
  | error fault => rfl
  | ok matched =>
    cases matched with
    | true => exact absurd hm he
    | false => rfl

/-- Every entry matches, or the query gives what the first gives that does not. -/
theorem matchFields_cases (h : Hierarchy) (full : Bool) (classId : String)
    (layout query : Layout) :
    (∀ e ∈ query, matchFields h full classId layout [e] = .ok true) ∧
        matchFields h full classId layout query = .ok true ∨
      ∃ before e after, query = before ++ e :: after ∧
        (∀ a ∈ before, matchFields h full classId layout [a] = .ok true) ∧
        matchFields h full classId layout [e] ≠ .ok true ∧
        matchFields h full classId layout query = matchFields h full classId layout [e] := by
  induction query with
  | nil => exact .inl ⟨by simp, by rw [matchFields]⟩
  | cons first rest ih =>
    by_cases hfirst : matchFields h full classId layout [first] = .ok true
    · have hrest : matchFields h full classId layout ([first] ++ rest) =
          matchFields h full classId layout rest :=
        matchFields_append (List.forall_mem_singleton.2 hfirst)
      rw [List.singleton_append] at hrest
      rw [hrest]
      rcases ih with ⟨hall, hm⟩ | ⟨before, e, after, rfl, hbefore, he, hm⟩
      · exact .inl ⟨List.forall_mem_cons.2 ⟨hfirst, hall⟩, hm⟩
      · exact .inr ⟨first :: before, e, after, rfl, List.forall_mem_cons.2 ⟨hfirst, hbefore⟩, he,
          hm⟩
    · exact .inr ⟨[], first, rest, rfl, by simp, hfirst, matchFields_cons_of_ne hfirst⟩

theorem matchFields_eq_true_iff :
    matchFields h full classId layout asked = .ok true ↔
      ∀ e ∈ asked, matchFields h full classId layout [e] = .ok true := by
  rcases matchFields_cases h full classId layout asked with
    ⟨hall, hm⟩ | ⟨before, e, after, rfl, -, he, hm⟩
  · simp only [hm, true_iff]
    exact hall
  · rw [hm]
    exact ⟨fun ht => absurd ht he, fun hall => absurd (hall e (by simp)) he⟩

end Entries

end TypedDocs.Query
