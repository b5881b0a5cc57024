import TypedDocs.Path

/-!
# What a replacement leaves

Two paths are apart when neither is the beginning of the other.  A path is followed piece by piece,
so that a replacement at the end of a path does not change what paths apart from it lead to; where
the new value agrees with the old one apart from some path, the roots agree apart from the way to
the end of that path.

    at? v (p ++ q) = (at? v p).bind fun w => at? w q                                  (at?_append)
    at? root path = some old → replace? root path new = some root' →
      AgreeApart q old new → AgreeApart (path ++ q) root root'                (agreeApart_replace?)
-/

namespace TypedDocs

/-! ## Definitions -/

/-- Neither path is the beginning of the other. -/
def Path.Apart (p q : Path) : Prop := ¬p <+: q ∧ ¬q <+: p

instance (p q : Path) : Decidable (p.Apart q) := inferInstanceAs (Decidable (_ ∧ _))

namespace Value

/-- Paths apart from `path` lead to the same in both values, or to nothing in both. -/
def AgreeApart (path : Path) (v w : Value) : Prop :=
  ∀ other, Path.Apart other path → at? w other = at? v other

/-! ## Following paths -/

theorem at?_append (v : Value) (p q : Path) : at? v (p ++ q) = (at? v p).bind fun w => at? w q := by
  induction p generalizing v with
  | nil => rfl
  | cons step rest ih =>
    cases step with
    | field key =>
      cases v with
      | object fields => cases hv : Keyed.get? fields key <;> simp [at?, hv, ih]
      | _ => rfl
    | index i =>
      cases v with
      | array items => cases hv : items[i]? <;> simp [at?, hv, ih]
      | _ => rfl

theorem at?_append_of_at? {v w : Value} {p : Path} (hw : at? v p = some w) (q : Path) :
    at? v (p ++ q) = at? w q := by
  rw [at?_append, hw]
  rfl

theorem at?_field (fields : Layout) (key : String) :
    at? (.object fields) [.field key] = fields.get? key := by
  cases hv : fields.get? key <;> simp [at?, hv]

theorem at?_item (items : List Value) (i : Nat) : at? (.array items) [.index i] = items[i]? := by
  cases hv : items[i]? <;> simp [at?, hv]

end Value

/-! ## Paths that are apart -/

namespace Path.Apart

variable {p q rest : Path} {step : PathStep}

theorem ne_nil (ha : p.Apart q) : p ≠ [] := by
  intro he
  subst he
  exact ha.1 List.nil_prefix

theorem of_cons (ha : Path.Apart (step :: p) (step :: q)) : p.Apart q :=
  ⟨fun hp => ha.1 ((List.cons_prefix_cons).2 ⟨rfl, hp⟩),
    fun hq => ha.2 ((List.cons_prefix_cons).2 ⟨rfl, hq⟩)⟩

theorem not_nil (ha : p.Apart []) : False := ha.2 List.nil_prefix

end Path.Apart

/-! ## Values that agree apart from a path -/

namespace Value

/-- Nothing is apart from the empty path. -/
theorem agreeApart_nil (v w : Value) : AgreeApart [] v w := fun _ ha => ha.not_nil.elim

/-- An entry that is written into an object is all that changes there. -/
theorem agreeApart_insert {fields : Layout} {key : String} {old new : Value} {q : Path}
    (ho : fields.get? key = some old) (hq : AgreeApart q old new) :
    AgreeApart (.field key :: q) (.object fields) (.object (fields.insert key new)) := by
  intro other ha
  cases other with
  | nil => exact (ha.ne_nil rfl).elim
  | cons step rest =>
    cases step with
    | index i => rfl
    | field k =>
      rw [at?, at?]
      by_cases hk : k = key
      · subst hk
        rw [Keyed.get?_insert_self, ho]
        exact hq rest ha.of_cons
      · rw [Keyed.get?_insert_of_ne fields new hk]

/-- An entry that is taken out of an object is all that changes there. -/
theorem agreeApart_erase (fields : Layout) (key : String) :
    AgreeApart [.field key] (.object fields) (.object (fields.erase key)) := by
  intro other ha
  cases other with
  | nil => exact (ha.ne_nil rfl).elim
  | cons step rest =>
    cases step with
    | index i => rfl
    | field k =>
      have hk : k ≠ key := by
        intro he
        subst he
        exact ha.of_cons.not_nil
      rw [at?, at?, Keyed.get?_erase_of_ne fields hk]

/-- An item that is put into an array in place of another one is all that changes there. -/
theorem agreeApart_set {items : List Value} {i : Nat} {old new : Value} {q : Path}
    (ho : items[i]? = some old) (hq : AgreeApart q old new) :
    AgreeApart (.index i :: q) (.array items) (.array (items.set i new)) := by
  intro other ha
  obtain ⟨hi, -⟩ := List.getElem?_eq_some_iff.1 ho
  cases other with
  | nil => exact (ha.ne_nil rfl).elim
  | cons step rest =>
    cases step with
    | field k => rfl
    | index j =>
      rw [at?, at?]
      by_cases hj : j = i
      · subst hj
        rw [List.getElem?_set_self hi, ho]
        exact hq rest ha.of_cons
      · rw [List.getElem?_set_ne (Ne.symm hj)]

/-- An item that is added to an array is all that changes there. -/
theorem agreeApart_concat (items : List Value) (item : Value) :
    AgreeApart [.index items.length] (.array items) (.array (items ++ [item])) := by
  intro other ha
  cases other with
  | nil => exact (ha.ne_nil rfl).elim
  | cons step rest =>
    cases step with
    | field k => rfl
    | index j =>
      have hj : j ≠ items.length := by
        intro he
        subst he
        exact ha.2 ((List.cons_prefix_cons).2 ⟨rfl, List.nil_prefix⟩)
      rw [at?, at?]
      by_cases hlt : j < items.length
      · rw [List.getElem?_append_left hlt]
      · have hge : (items ++ [item]).length ≤ j := by
          rw [List.length_append, List.length_singleton]
          omega
        rw [List.getElem?_eq_none hge, List.getElem?_eq_none (by omega)]

/-- Where the new value agrees with the old one, the roots agree. -/
theorem agreeApart_replace? {root root' old new : Value} {path q : Path}
    (ho : at? root path = some old) (hr : replace? root path new = some root')
    (hq : AgreeApart q old new) : AgreeApart (path ++ q) root root' := by
  induction path generalizing root root' with
  | nil =>
    rw [at?] at ho
    rw [replace?] at hr
    cases ho
    cases hr
    exact hq
  | cons step rest ih =>
    cases step with
    | field key =>
      cases root with
      | object fields =>
        simp only [at?, Option.bind_eq_some_iff] at ho
        simp only [replace?, bind, Option.bind_eq_some_iff] at hr
        obtain ⟨value, hvalue, hold⟩ := ho
        obtain ⟨_, hvalue', inner, hinner, he⟩ := hr
        rw [hvalue] at hvalue'
        cases hvalue'
        cases he
        exact agreeApart_insert hvalue (ih hold hinner)
      | _ => cases ho
    | index i =>
      cases root with
      | array items =>
        simp only [at?, Option.bind_eq_some_iff] at ho
        simp only [replace?, bind, Option.bind_eq_some_iff] at hr
        obtain ⟨value, hvalue, hold⟩ := ho
        obtain ⟨_, hvalue', inner, hinner, he⟩ := hr
        rw [hvalue] at hvalue'
        cases hvalue'
        cases he
        exact agreeApart_set hvalue (ih hold hinner)
      | _ => cases ho

end Value

end TypedDocs
