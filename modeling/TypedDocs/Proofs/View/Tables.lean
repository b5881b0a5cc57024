import TypedDocs.View
import TypedDocs.Proofs.Hierarchy.Resolution

/-!
# Tables of accessors

The tables that were built before do not matter: when each of them is the table of its
classifier, so is every table that is asked for, and every one kept afterwards.

    v.Faithful h → (v.table h id).1 = (h.get id).map (AccessorTable.of h)       (table_eq)
    v.Faithful h → (v.table h id).2.1.Faithful h                                (faithful_table)

The accessor of a name is the attribute that the name denotes for the classifier
(`accessor?_of`), so an edit through a view touches no internal key.
-/

namespace TypedDocs

/-! ## Definitions -/

/-- The table of a classifier: a layer for each classifier of its chain. -/
def AccessorTable.of (h : Hierarchy) (c : Classifier) : AccessorTable :=
  ⟨c.id, c.kind, (h.ancestors c.id).map AccessorTable.layerOf⟩

/-- Every table that is kept is the table of its classifier. -/
def Views.Faithful (h : Hierarchy) (v : Views) : Prop :=
  ∀ id t, v.tables.get? id = some t → ∃ c, h.find? id = some c ∧ t = AccessorTable.of h c

/-! ## Accessors -/

namespace AccessorTable

theorem get?_layerOf {c : Classifier} (hn : c.nameFault? = none) (name : String) :
    (layerOf c).get? name =
      (Hierarchy.declared? c name).map fun r => ⟨r.key, r.owner⟩ := by
  have hnodup := Classifier.nodup_of_nameFault? hn
  have hkeys : (c.attributes.map fun a => (a.name, (⟨c.keyOf a.name, c.id⟩ : Accessor))).map
      Prod.fst = c.attributes.map Attribute.name := by
    rw [List.map_map]
    rfl
  rw [layerOf, Keyed.get?_ofEntries (hkeys ▸ hnodup), Hierarchy.declared?, Classifier.attribute?,
    Option.map_map]
  clear hn hnodup hkeys
  induction c.attributes with
  | nil => rfl
  | cons a rest ih =>
    rw [List.map_cons, Keyed.get?, List.find?_cons]
    by_cases ha : a.name = name
    · simp [ha]
    · rw [if_neg ha, beq_false_of_ne ha]
      exact ih

/-- The accessor of a name is that of the attribute it denotes. -/
theorem accessor?_of (h : Hierarchy) {id : String} {c : Classifier} (hc : h.find? id = some c)
    (name : String) :
    (AccessorTable.of h c).accessor? name =
      (h.resolve id name).toOption.map fun r => ⟨r.key, r.owner⟩ := by
  have hlayers : ∀ l : List Classifier, (∀ d ∈ l, d.nameFault? = none) →
      (l.map layerOf).findSome? (fun layer => layer.get? name) =
        (l.findSome? fun d => Hierarchy.declared? d name).map fun r => ⟨r.key, r.owner⟩ := by
    intro l hl
    induction l with
    | nil => rfl
    | cons d rest ih =>
      rw [List.forall_mem_cons] at hl
      rw [List.map_cons, List.findSome?_cons, List.findSome?_cons, get?_layerOf hl.1]
      cases Hierarchy.declared? d name with
      | none => exact ih hl.2
      | some r => rfl
  have hnames : ∀ d ∈ h.ancestors id, d.nameFault? = none := fun d hd =>
    Hierarchy.nameFault?_of_find? (Hierarchy.find?_of_mem_ancestors hd)
  rw [accessor?, AccessorTable.of, Hierarchy.id_of_find? hc, hlayers _ hnames]
  congr 1
  cases hr : h.resolve id name with
  | ok r => exact Hierarchy.resolve_eq_ok_iff.1 hr
  | error fault =>
    cases hs : (h.ancestors id).findSome? fun d => Hierarchy.declared? d name with
    | none => rfl
    | some r =>
      rw [Hierarchy.resolve_eq_ok_iff.2 hs] at hr
      cases hr

theorem resolve_of_accessor? {h : Hierarchy} {id : String} {c : Classifier}
    (hc : h.find? id = some c) {name : String} {a : Accessor}
    (ha : (AccessorTable.of h c).accessor? name = some a) :
    ∃ r, h.resolve id name = .ok r ∧ a.key.wire = r.wire := by
  rw [accessor?_of h hc, Option.map_eq_some_iff] at ha
  obtain ⟨r, hr, rfl⟩ := ha
  cases hres : h.resolve id name with
  | error fault =>
    rw [hres] at hr
    cases hr
  | ok s =>
    rw [hres] at hr
    cases hr
    exact ⟨_, rfl, rfl⟩

end AccessorTable

/-! ## Building -/

namespace Views

variable {h : Hierarchy} {v : Views}

theorem faithful_empty (h : Hierarchy) : (empty : Views).Faithful h := by
  intro id t ht
  cases ht

theorem Faithful.insert (hv : v.Faithful h) {c : Classifier} (hc : h.find? c.id = some c) :
    Views.Faithful h ⟨v.tables.insert c.id (AccessorTable.of h c)⟩ := by
  intro id t ht
  change (v.tables.insert c.id (AccessorTable.of h c)).get? id = some t at ht
  rw [Keyed.get?_insert] at ht
  split at ht
  · next he =>
    cases ht
    exact ⟨c, by rw [he]; exact hc, rfl⟩
  · exact hv id t ht

theorem buildChain_spec (hv : v.Faithful h) {id : String} {chain : List Classifier}
    (hs : chain <:+ h.ancestors id) :
    (v.buildChain chain).1 = chain.map AccessorTable.layerOf ∧
      (v.buildChain chain).2.1.Faithful h := by
  induction chain with
  | nil => exact ⟨rfl, hv⟩
  | cons c parents ih =>
    obtain ⟨hc, hchain⟩ := Hierarchy.find?_and_ancestors_of_suffix hs
    have htable : AccessorTable.of h c =
        ⟨c.id, c.kind, AccessorTable.layerOf c :: parents.map AccessorTable.layerOf⟩ := by
      rw [AccessorTable.of, hchain, List.map_cons]
    rw [buildChain]
    cases ht : v.tables.get? c.id with
    | some t =>
      obtain ⟨d, hd, rfl⟩ := hv _ _ ht
      rw [hc] at hd
      cases hd
      exact ⟨by rw [htable, List.map_cons], hv⟩
    | none =>
      obtain ⟨hlayers, hfaithful⟩ := ih ((List.suffix_cons c parents).trans hs)
      refine ⟨by simp [hlayers], ?_⟩
      simpa [hlayers, htable] using hfaithful.insert hc

theorem table_spec (hv : v.Faithful h) (id : String) :
    (v.table h id).1 = (h.get id).map (AccessorTable.of h) ∧ (v.table h id).2.1.Faithful h := by
  rw [table]
  cases ht : v.tables.get? id with
  | some t =>
    obtain ⟨c, hc, rfl⟩ := hv _ _ ht
    exact ⟨by rw [Hierarchy.get, hc]; rfl, hv⟩
  | none =>
    cases hc : h.find? id with
    | none => exact ⟨by rw [Hierarchy.get, hc]; rfl, hv⟩
    | some c =>
      obtain ⟨hlayers, hfaithful⟩ := buildChain_spec hv (List.suffix_refl (h.ancestors id))
      refine ⟨?_, hfaithful⟩
      simp only [hlayers, Hierarchy.get, hc, Except.map, AccessorTable.of,
        Hierarchy.id_of_find? hc]

/-- A table that was asked for is kept, and asking for it again builds nothing. -/
theorem table_table (v : Views) (h : Hierarchy) (id : String) :
    ((v.table h id).2.1.table h id).2 = ((v.table h id).2.1, []) := by
  cases ht : v.tables.get? id with
  | some t => simp only [table, ht]
  | none =>
    cases hc : h.find? id with
    | none => simp only [table, ht, hc]
    | some c =>
      have hkept : ((v.buildChain (h.ancestors id)).2.1.tables.get? id).isSome = true := by
        rw [Hierarchy.ancestors_eq_cons hc, buildChain, Hierarchy.id_of_find? hc, ht]
        simp
      obtain ⟨t, hbuilt⟩ := Option.isSome_iff_exists.1 hkept
      simp only [table, ht, hc, hbuilt]

theorem table_eq (hv : v.Faithful h) (id : String) :
    (v.table h id).1 = (h.get id).map (AccessorTable.of h) :=
  (table_spec hv id).1

theorem faithful_table (hv : v.Faithful h) (id : String) : (v.table h id).2.1.Faithful h :=
  (table_spec hv id).2

theorem faithful_view (hv : v.Faithful h) (doc : Document) (id : String) :
    (v.view h doc id).2.1.Faithful h :=
  faithful_table hv id

/-- A view that is granted shows the document through the table of the classifier. -/
theorem view_eq_ok_iff (hv : v.Faithful h) {doc : Document} {id : String} {w : View} :
    (v.view h doc id).1 = .ok w ↔
      ∃ c, h.find? id = some c ∧ (AccessorTable.of h c).check h doc = .ok () ∧
        w = ⟨AccessorTable.of h c, doc⟩ := by
  have ht := table_eq hv id
  rw [view]
  simp only [ht]
  cases hc : h.find? id with
  | none => simp [Hierarchy.get, hc, Except.map]
  | some c =>
    simp only [Hierarchy.get, hc, Except.map, ok_bind, Option.some.injEq,
      exists_eq_left']
    cases (AccessorTable.of h c).check h doc with
    | error fault => simp
    | ok u => simp [eq_comm]

/-- A view as a mixin is granted for every document. -/
theorem view_mixin (hv : v.Faithful h) {id : String} (hm : h.isMixin id = true)
    (doc : Document) : ∃ w, (v.view h doc id).1 = .ok w := by
  obtain ⟨c, hc, hk⟩ := Hierarchy.isMixin_eq_true_iff.1 hm
  refine ⟨⟨AccessorTable.of h c, doc⟩, (view_eq_ok_iff hv).2 ⟨c, hc, ?_, rfl⟩⟩
  simp [AccessorTable.check, AccessorTable.of, hk]

end Views

/-! ## Edits through a view -/

namespace View

theorem table_apply (v : View) (e : ViewEdit) : (v.apply e).2.table = v.table := by
  cases e with
  | get name => rfl
  | set name value =>
    rw [apply, set]
    cases v.table.require name <;> rfl
  | remove name =>
    rw [apply, remove]
    cases v.table.require name <;> rfl

/-- An edit that fails leaves the view. -/
theorem apply_of_error {v : View} {e : ViewEdit} {fault : Fault}
    (hf : (v.apply e).1 = .error fault) : (v.apply e).2 = v := by
  cases e with
  | get name => rfl
  | set name value =>
    rw [apply] at hf ⊢
    cases hs : v.set name value with
    | error reason => rfl
    | ok result =>
      rw [hs] at hf
      cases hf
  | remove name =>
    rw [apply] at hf ⊢
    cases hs : v.remove name with
    | error reason => rfl
    | ok result =>
      rw [hs] at hf
      cases hf

theorem applyAll_concat (v : View) (edits : List ViewEdit) (e : ViewEdit) :
    v.applyAll (edits ++ [e]) =
      ((v.applyAll edits).1 ++ [((v.applyAll edits).2.apply e).1],
        ((v.applyAll edits).2.apply e).2) := by
  induction edits generalizing v with
  | nil => rfl
  | cons first rest ih =>
    rw [List.cons_append, applyAll, applyAll]
    simp only [ih, List.cons_append]

/-- What writing the values of the edits and erasing at visible attributes keeps, the edits
keep. -/
theorem apply_induction {P : Layout → Prop} {v : View} {e : ViewEdit} (hp : P v.layout)
    (hset : ∀ name value, e = .set name value → ∀ a, v.table.accessor? name = some a →
      ∀ layout, P layout → P (layout.insert a.key.wire value))
    (herase : ∀ name a, v.table.accessor? name = some a →
      ∀ layout, P layout → P (layout.erase a.key.wire)) : P (v.apply e).2.layout := by
  cases e with
  | get name => exact hp
  | set name value =>
    rw [apply, set, AccessorTable.require]
    cases ha : v.table.accessor? name with
    | none => exact hp
    | some a => exact hset name value rfl a ha v.layout hp
  | remove name =>
    rw [apply, remove, AccessorTable.require]
    cases ha : v.table.accessor? name with
    | none => exact hp
    | some a => exact herase name a ha v.layout hp

theorem applyAll_induction {P : Layout → Prop} {v : View} {edits : List ViewEdit}
    (hp : P v.layout)
    (hset : ∀ name value, .set name value ∈ edits → ∀ a, v.table.accessor? name = some a →
      ∀ layout, P layout → P (layout.insert a.key.wire value))
    (herase : ∀ name a, v.table.accessor? name = some a →
      ∀ layout, P layout → P (layout.erase a.key.wire)) : P (v.applyAll edits).2.layout := by
  induction edits generalizing v with
  | nil => exact hp
  | cons e es ih =>
    have hfirst : P (v.apply e).2.layout :=
      apply_induction hp (fun name value he => hset name value (he ▸ List.mem_cons_self)) herase
    refine ih (v := (v.apply e).2) hfirst ?_ ?_
    · intro name value he
      rw [table_apply]
      exact hset name value (List.mem_cons_of_mem e he)
    · rw [table_apply]
      exact herase

end View

end TypedDocs
