import TypedDocs.Pattern.Basic
import TypedDocs.Proofs.Query.Undeclared
import TypedDocs.Proofs.Query.Verdicts

/-!
# Full matching and partial matching

A full match compares arrays of one length only and in every place; a partial one looks at the places
of an array and never fails there.  So what matches in full is no miss in part: it matches, or the
partial comparison looks where the full one had no need to, and fails.  The step that might turn a
fault into a miss is that of an embedded object; but a key that its class lacks is looked up in both
ways of matching, and in full it would have been a miss.

    Matches h true declared value query → matchValue h false declared value query ≠ .ok .miss
                                                                      (partial_of_full)
-/

namespace TypedDocs.Query

section Engine

variable {ρ : Type} [Pattern.Engine ρ]

/-! ## Definitions -/

/-- What a value, or the bag that it is, matches in full is no miss in part. -/
structure Stands (h : Hierarchy) (value : Value) : Prop where
  ofValue : ∀ {declared query}, Matches h true declared value query →
    matchValue h false declared value query ≠ .ok .miss
  ofBag : ∀ {declared query}, matchBag h true declared value query = .ok true →
    matchBag h false declared value query ≠ .ok false

variable {h : Hierarchy} {declared : Option String} {value query wanted : Value} {v : Verdict}
  {items patterns : List Value} {classId key : String} {layout bag asked : Layout}

/-! ## Verdicts -/

theorem eq_miss_of_isHit (hh : v.isHit = false) : v = .miss := by
  cases v with
  | miss => rfl
  | hit => cases hh
  | hitAt i => cases hh

theorem Matches.ne_miss {full : Bool} (hm : Matches h full declared value query) :
    matchValue h full declared value query ≠ .ok .miss := by
  obtain ⟨v, hv, hh⟩ := hm
  rw [hv]
  rintro he
  cases he
  cases hh

theorem eq_ok_true_of_missUndeclared {r : Except Fault Bool} (hv : missUndeclared r = .ok v)
    (hh : v.isHit = true) : r = .ok true := by
  unfold missUndeclared at hv
  split at hv
  · next b =>
    cases b with
    | true => rfl
    | false =>
      cases hv
      cases hh
  · cases hv
    cases hh
  · cases hv

theorem cases_of_missUndeclared {r : Except Fault Bool} (hm : missUndeclared r = .ok .miss) :
    r = .ok false ∨ ∃ c name, r = .error (.attributeNotFound c name) := by
  unfold missUndeclared at hm
  split at hm
  · next b =>
    cases b with
    | true => cases hm
    | false => exact .inl rfl
  · exact .inr ⟨_, _, rfl⟩
  · cases hm

/-! ## Arrays -/

/-- Partial matching place by place never fails. -/
theorem matchPlaces_ne_miss :
    matchPlaces h false declared items patterns ≠ .ok .miss := by
  induction patterns generalizing items with
  | nil =>
    rw [matchPlaces]
    simp
  | cons p patterns ih =>
    cases items with
    | nil =>
      rw [matchPlaces]
      simp [Verdict.ofBool]
    | cons item items =>
      rw [matchPlaces]
      intro hm
      obtain ⟨v, -, hrest⟩ := bind_eq_ok_iff.1 hm
      exact ih hrest

/-- A search that finds an item in full does not miss all of them in part. -/
theorem matchAny_ne_miss (hi : ∀ item ∈ items, Stands h item) {n : Nat}
    (hv : matchAny h true declared n items query = .ok v) (hh : v.isHit = true) :
    matchAny h false declared n items query ≠ .ok .miss := by
  induction items generalizing n with
  | nil =>
    rw [matchAny] at hv
    cases hv
    cases hh
  | cons item items ih =>
    obtain ⟨hitem, hitems⟩ := List.forall_mem_cons.1 hi
    rw [matchAny] at hv ⊢
    intro hm
    obtain ⟨w, hw, hv⟩ := bind_eq_ok_iff.1 hv
    obtain ⟨u, hu, hm⟩ := bind_eq_ok_iff.1 hm
    cases huhit : u.isHit with
    | true => simp [huhit] at hm
    | false =>
      rw [huhit, if_neg (by decide)] at hm
      cases hwhit : w.isHit with
      | true =>
        -- The item that is found in full is no miss in part.
        rw [eq_miss_of_isHit huhit] at hu
        exact hitem.ofValue ⟨w, hw, hwhit⟩ hu
      | false =>
        rw [hwhit, if_neg (by decide)] at hv
        exact ih hitems hv hm

/-! ## Fields and entries -/

/-- A step that a value decides, before the rest of a query does. -/
theorem Stands.bind_ne_false (hs : Stands h value) {rest rest' : Except Fault Bool}
    (hm : (matchValue h true declared value query >>= fun v =>
      if v.isHit then rest else .ok false) = .ok true)
    (hr : rest = .ok true → rest' ≠ .ok false) :
    (matchValue h false declared value query >>= fun v =>
      if v.isHit then rest' else .ok false) ≠ .ok false := by
  intro hfalse
  obtain ⟨v, hv, hm⟩ := bind_eq_ok_iff.1 hm
  obtain ⟨u, hu, hfalse⟩ := bind_eq_ok_iff.1 hfalse
  cases hhit : v.isHit with
  | false => simp [hhit] at hm
  | true =>
    rw [hhit, if_pos rfl] at hm
    have hne := hs.ofValue ⟨v, hv, hhit⟩
    cases huhit : u.isHit with
    | false =>
      rw [eq_miss_of_isHit huhit] at hu
      exact hne hu
    | true =>
      rw [huhit, if_pos rfl] at hfalse
      exact hr hm hfalse

theorem matchTyped_ne_false {attr : ResolvedAttribute} (hs : Stands h value)
    (hm : matchTyped h true attr value wanted = .ok true) :
    matchTyped h false attr value wanted ≠ .ok false := by
  have hbind (r : Except Fault Verdict) : r.map Verdict.isHit =
      r >>= fun v => if v.isHit then .ok true else .ok false := by
    cases r with
    | error fault => rfl
    | ok v => cases v <;> rfl
  unfold matchTyped at hm ⊢
  split at hm
  · exact hs.ofBag hm
  · simp only [hbind] at hm ⊢
    exact hs.bind_ne_false hm (by simp)

theorem matchEntries_ne_false (hb : ∀ e ∈ bag, Stands h e.2)
    (hm : matchEntries h true declared bag asked = .ok true) :
    matchEntries h false declared bag asked ≠ .ok false := by
  induction asked with
  | nil =>
    rw [matchEntries]
    simp
  | cons e rest ih =>
    obtain ⟨key, wanted⟩ := e
    rw [matchEntries_cons] at hm ⊢
    by_cases hnull : wanted.isNull = true
    · rw [if_pos hnull] at hm ⊢
      exact ih hm
    · rw [if_neg hnull] at hm ⊢
      cases hv : bag.get? key with
      | none =>
        rw [hv] at hm
        cases hm
      | some entry =>
        rw [hv] at hm
        exact (hb _ (Keyed.mem_of_get? hv)).bind_ne_false hm ih

/-- One entry of a query that matches in full is no miss in part. -/
theorem matchFields_singleton_ne_false {e : String × Value} (hl : ∀ e ∈ layout, Stands h e.2)
    (hm : matchFields h true classId layout [e] = .ok true) :
    matchFields h false classId layout [e] ≠ .ok false := by
  have hnil (full : Bool) : matchFields h full classId layout [] = .ok true := by rw [matchFields]
  obtain ⟨key, wanted⟩ := e
  rw [matchFields_cons, hnil] at hm ⊢
  by_cases hnull : wanted.isNull = true
  · rw [if_pos hnull]
    simp
  · rw [if_neg hnull] at hm ⊢
    by_cases hint : Key.isInternal key = true
    · rw [if_pos hint] at hm ⊢
      cases hv : layout.get? key with
      | none =>
        rw [hv] at hm
        cases hm
      | some value =>
        rw [hv] at hm
        exact (hl _ (Keyed.mem_of_get? hv)).bind_ne_false hm (by simp)
    · rw [if_neg hint] at hm ⊢
      cases hattr : h.resolveKey classId key with
      | error fault =>
        rw [hattr] at hm
        cases hm
      | ok attr =>
        rw [hattr, ok_bind] at hm
        rw [ok_bind]
        cases hv : layout.get? attr.wire with
        | none =>
          rw [hv] at hm
          cases hm
        | some value =>
          rw [hv] at hm
          have hne : matchTyped h true attr value wanted = .ok true →
              matchTyped h false attr value wanted ≠ .ok false :=
            matchTyped_ne_false (hl _ (Keyed.mem_of_get? hv))
          obtain ⟨matched, hmatched, hm⟩ := bind_eq_ok_iff.1 hm
          cases matched with
          | false => cases hm
          | true =>
            intro hfalse
            obtain ⟨matched', hmatched', hfalse⟩ := bind_eq_ok_iff.1 hfalse
            cases matched' with
            | true => cases hfalse
            | false => exact hne hmatched hmatched'

theorem matchFields_ne_false (hl : ∀ e ∈ layout, Stands h e.2)
    (hm : matchFields h true classId layout asked = .ok true) :
    matchFields h false classId layout asked ≠ .ok false := by
  intro hfalse
  rcases matchFields_cases h false classId layout asked with
    ⟨-, htrue⟩ | ⟨before, e, after, rfl, -, -, hfirst⟩
  · rw [hfalse] at htrue
    cases htrue
  · rw [hfalse] at hfirst
    have hentry := matchFields_eq_true_iff.1 hm e (by simp)
    exact matchFields_singleton_ne_false hl hentry hfirst.symm

/-- What matches in full fails by no undeclared key in part. -/
theorem matchFields_ne_undeclared {c name : String}
    (hm : matchFields h true classId layout asked = .ok true) :
    matchFields h false classId layout asked ≠ .error (.attributeNotFound c name) := by
  intro hu
  obtain ⟨before, e, after, rfl, -, hentry⟩ := exists_undeclared_entry hu
  have htrue := matchFields_eq_true_iff.1 hm e (by simp)
  rw [hentry true] at htrue
  cases htrue

/-! ## Values -/

theorem matchBag_of_ne_object {full : Bool} (ho : ∀ fields, value ≠ .object fields) :
    matchBag h full declared value query = .ok (value.sameValue query) := by
  rw [matchBag]
  intro bag patterns he
  exact absurd he (ho bag)

/-- What is no object is compared with a bag in one way only. -/
theorem matchBag_ne_false_of_ne_object (ho : ∀ fields, value ≠ .object fields)
    (hm : matchBag h true declared value query = .ok true) :
    matchBag h false declared value query ≠ .ok false := by
  rw [matchBag_of_ne_object ho] at hm ⊢
  rw [hm]
  simp

theorem stands_leaf (ha : ∀ items, value ≠ .array items) (ho : ∀ fields, value ≠ .object fields) :
    Stands h value where
  ofValue {declared query} hm := by
    have hsame : matchValue h true declared value query =
        matchValue h false declared value query := by
      by_cases hwanted : ∃ wanted, query = .object wanted
      · obtain ⟨wanted, rfl⟩ := hwanted
        rw [matchValue_leaf_object ha ho, matchValue_leaf_object ha ho]
      · have hother : ∀ wanted, query ≠ .object wanted := fun wanted he => hwanted ⟨wanted, he⟩
        rw [matchValue_leaf_other ha ho hother, matchValue_leaf_other ha ho hother]
    rw [← hsame]
    exact hm.ne_miss
  ofBag := matchBag_ne_false_of_ne_object ho

theorem stands_array (hi : ∀ item ∈ items, Stands h item) : Stands h (.array items) where
  ofValue {declared query} hm := by
    obtain ⟨v, hv, hh⟩ := hm
    by_cases hpatterns : ∃ patterns, query = .array patterns
    · obtain ⟨patterns, rfl⟩ := hpatterns
      rw [matchValue_array_array, if_neg (by simp)]
      exact matchPlaces_ne_miss
    · have hother : ∀ patterns, query ≠ .array patterns := fun ps he => hpatterns ⟨ps, he⟩
      rw [matchValue_array_other hother] at hv ⊢
      exact matchAny_ne_miss hi hv hh
  ofBag := matchBag_ne_false_of_ne_object (by simp)

theorem stands_object (hl : ∀ e ∈ layout, Stands h e.2) : Stands h (.object layout) where
  ofValue {declared query} hm := by
    by_cases hwanted : ∃ wanted, query = .object wanted
    · obtain ⟨wanted, rfl⟩ := hwanted
      have hne := hm.ne_miss
      obtain ⟨v, hv, hh⟩ := hm
      rw [matchValue] at hv hne ⊢
      split
      · next hpattern =>
        rw [if_pos hpattern] at hne
        exact hne
      · next hpattern =>
        rw [if_neg hpattern] at hv hne
        split
        · next c hc =>
          rw [hc] at hv
          have htrue := eq_ok_true_of_missUndeclared hv hh
          intro hmiss
          rcases cases_of_missUndeclared hmiss with hfalse | ⟨c', name, hu⟩
          · exact matchFields_ne_false hl htrue hfalse
          · exact matchFields_ne_undeclared htrue hu
        · next hc =>
          rw [hc] at hne
          exact hne
    · have hother : ∀ wanted, query ≠ .object wanted := fun wanted he => hwanted ⟨wanted, he⟩
      have hne := hm.ne_miss
      rw [matchValue_object_other hother] at hne ⊢
      exact hne
  ofBag {declared query} hm := by
    unfold matchBag at hm ⊢
    split at hm
    · next bag patterns he =>
      cases he
      exact matchEntries_ne_false hl hm
    · rw [hm]
      simp

mutual

theorem stands_value : ∀ value : Value, Stands h value
  | .array items => stands_array (stands_items items)
  | .object fields => stands_object (stands_fields fields)
  | .null | .bool _ | .number _ | .string _ => stands_leaf (by simp) (by simp)

theorem stands_items : ∀ items : List Value, ∀ item ∈ items, Stands h item
  | [] => by simp
  | item :: items => List.forall_mem_cons.2 ⟨stands_value item, stands_items items⟩

theorem stands_fields : ∀ fields : List (String × Value), ∀ e ∈ fields, Stands h e.2
  | [] => by simp
  | (_, value) :: fields => List.forall_mem_cons.2 ⟨stands_value value, stands_fields fields⟩

end

/-! ## Main statement -/

/-- What matches in full matches in part, or cannot be compared in part for a fault that is none of
a key. -/
theorem partial_of_full (h : Hierarchy) :
    (∀ declared value query, Matches h true declared value query →
      Matches h false declared value query ∨
        ∃ fault, matchValue h false declared value query = .error fault ∧ Obstructs h fault) ∧
    ∀ classId layout query, matchFields h true classId layout query = .ok true →
      matchFields h false classId layout query ≠ .ok false := by
  constructor
  · intro declared value query hm
    have hne := (stands_value value).ofValue hm
    cases hv : matchValue h false declared value query with
    | error fault => exact .inr ⟨fault, rfl, obstructs_of_matchValue hv⟩
    | ok v =>
      cases hh : v.isHit with
      | true => exact .inl ⟨v, hv, hh⟩
      | false =>
        rw [hv, eq_miss_of_isHit hh] at hne
        exact absurd rfl hne
  · intro classId layout query hm
    exact matchFields_ne_false (stands_fields layout) hm

/-- The pattern of a query with an option that there is none of. -/
def oddPattern : Layout := [("$options", .string "q"), ("$regex", .string "a")]

/-- A task with labels. -/
def labelled (labels : List Value) : Value := .object [("labels", .array labels)]

theorem matchValue_labelled (full : Bool) (labels patterns : List Value) :
    matchValue .tasks full (some "Task") (labelled labels) (labelled patterns) =
      missUndeclared ((matchValue .tasks full none (.array labels) (.array patterns)).map
        Verdict.isHit >>= fun matched => if matched then .ok true else .ok false) := by
  have hclass : Hierarchy.tasks.embeddedClass (some "Task") [("labels", .array labels)] =
      some "Task" := rfl
  have hpattern : pattern? [("labels", .array patterns)] = none := rfl
  have hattr : Hierarchy.tasks.resolveKey "Task" "labels" =
      .ok ⟨⟨"labels", .arrayOf .string⟩, "Task", .plain "labels"⟩ := rfl
  have hnil : matchFields .tasks full "Task" [("labels", .array labels)] [] = .ok true := by
    rw [matchFields]
  conv_lhs => rw [labelled, labelled, matchValue, hpattern, hclass]
  show missUndeclared (matchFields _ _ _ _ _) = _
  rw [matchFields_cons, hattr, hnil]
  rfl

end Engine

/-- The first task has too few labels for a full match, and the second one has them all.  In part
the first one is compared with the pattern, which is none. -/
theorem partial_of_full_labels :
    matchValue .tasks true (some "Task")
        (.array [labelled [.string "a"], labelled [.object oddPattern, .string "b"]])
        (labelled [.object oddPattern, .string "b"]) = .ok (.hitAt 1) ∧
      ∃ fault, matchValue .tasks false (some "Task")
          (.array [labelled [.string "a"], labelled [.object oddPattern, .string "b"]])
          (labelled [.object oddPattern, .string "b"]) = .error fault ∧ Obstructs .tasks fault := by
  have hodd : (pattern? oddPattern).isSome = true := rfl
  have hfull : matchValue .tasks true (some "Task")
      (.array [labelled [.string "a"], labelled [.object oddPattern, .string "b"]])
      (labelled [.object oddPattern, .string "b"]) = .ok (.hitAt 1) := by
    have hfew : matchValue .tasks true none (.array [.string "a"])
        (.array [.object oddPattern, .string "b"]) = .ok .miss := by
      rw [matchValue_array_array, if_pos (by decide)]
    have hall : matchValue .tasks true none (.array [.object oddPattern, .string "b"])
        (.array [.object oddPattern, .string "b"]) = .ok .hit := by
      have hfirst : matchValue .tasks true none (.object oddPattern) (.object oddPattern) =
          .ok .hit := by
        rw [matchValue, if_pos hodd, Value.sameValue_refl]
        rfl
      have hsecond : matchValue .tasks true none (.string "b") (.string "b") = .ok .hit := by
        rw [matchValue_leaf_other (by simp) (by simp) (by simp), Value.sameValue_refl]
        rfl
      rw [matchValue_array_array, if_neg (by decide), matchPlaces_cons_of_hit hfirst,
        matchPlaces_cons_of_hit hsecond, matchPlaces]
    rw [matchValue_array_other (by simp [labelled]), matchAny, matchValue_labelled, hfew]
    show matchAny _ _ _ _ _ _ = _
    rw [matchAny, matchValue_labelled, hall]
    rfl
  have hpart : matchValue .tasks false (some "Task")
      (.array [labelled [.string "a"], labelled [.object oddPattern, .string "b"]])
      (labelled [.object oddPattern, .string "b"]) =
        .error (.invalidPattern "a" (.unsupportedOption 'q')) := by
    have hfirst : matchValue .tasks false none (.string "a") (.object oddPattern) =
        .error (.invalidPattern "a" (.unsupportedOption 'q')) := by
      rw [matchValue_leaf_object (by simp) (by simp)]
      rfl
    have hplaces : matchValue .tasks false none (.array [.string "a"])
        (.array [.object oddPattern, .string "b"]) =
          .error (.invalidPattern "a" (.unsupportedOption 'q')) := by
      rw [matchValue_array_array, if_neg (by decide), matchPlaces, hfirst]
      rfl
    rw [matchValue_array_other (by simp [labelled]), matchAny, matchValue_labelled, hplaces]
    rfl
  refine ⟨hfull, ?_⟩
  rcases (partial_of_full .tasks).1 _ _ _ ⟨_, hfull, rfl⟩ with ⟨v, hv, -⟩ | hfault
  · rw [hpart] at hv
    cases hv
  · exact hfault

end TypedDocs.Query
