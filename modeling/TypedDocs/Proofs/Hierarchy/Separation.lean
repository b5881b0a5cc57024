import TypedDocs.Proofs.Hierarchy.Loading
import TypedDocs.Proofs.Hierarchy.Resolution

/-!
# Attributes are stored apart

The text under which a declared attribute is stored denotes its key and nothing else.  So two
attributes share a text only when they share their name, and both are stored plainly or one
classifier declares both; and the text of an attribute of a mixin leads back to the attribute from
wherever it is read.

    Key.parse (c.keyOf a.name).wire = c.keyOf a.name                            (parse_wire_keyOf)
    (c₁.keyOf a₁.name).wire = (c₂.keyOf a₂.name).wire ↔
      a₁.name = a₂.name ∧ (c₁ = c₂ ∨ c₁.kind = .concrete ∧ c₂.kind = .concrete)
                                                                                (wire_separates)
-/

namespace TypedDocs

/-! ## Keys of declared attributes -/

namespace Classifier

variable {c c₁ c₂ : Classifier} {a a₁ a₂ : Attribute}

/-- What is stored for a declared attribute is read back as its key. -/
theorem parse_wire_keyOf (hn : c.nameFault? = none) (ha : a ∈ c.attributes) :
    Key.parse (c.keyOf a.name).wire = c.keyOf a.name := by
  obtain ⟨hid, hattrs⟩ := names_of_nameFault? hn
  have hbar := (Key.not_mem_of_isIdentifier (hattrs a ha).1).1
  rw [keyOf]
  cases c.kind with
  | concrete => exact Key.parse_wire_plain hbar
  | mixin => exact Key.parse_wire_qualified hbar (Key.not_mem_of_isIdentifier hid).2

theorem wire_keyOf_eq_iff (hn₁ : c₁.nameFault? = none) (ha₁ : a₁ ∈ c₁.attributes)
    (hn₂ : c₂.nameFault? = none) (ha₂ : a₂ ∈ c₂.attributes) :
    (c₁.keyOf a₁.name).wire = (c₂.keyOf a₂.name).wire ↔
      c₁.keyOf a₁.name = c₂.keyOf a₂.name := by
  constructor
  · intro he
    rw [← parse_wire_keyOf hn₁ ha₁, ← parse_wire_keyOf hn₂ ha₂, he]
  · intro he
    rw [he]

/-- Only classes share keys, and they do wherever they share a name. -/
theorem keyOf_eq_keyOf_iff {name₁ name₂ : String} :
    c₁.keyOf name₁ = c₂.keyOf name₂ ↔
      name₁ = name₂ ∧ ((c₁.id = c₂.id ∧ c₁.kind = c₂.kind) ∨
        c₁.kind = .concrete ∧ c₂.kind = .concrete) := by
  rw [keyOf, keyOf]
  cases c₁.kind <;> cases c₂.kind <;> simp

theorem isInternal_wire_keyOf (hn : c.nameFault? = none) (ha : a ∈ c.attributes) :
    Key.isInternal (c.keyOf a.name).wire = false := by
  rw [Key.isInternal_wire, name_keyOf]
  exact ((names_of_nameFault? hn).2 a ha).2

/-- A classifier finds what it declares under its name, as no name comes twice. -/
theorem attribute?_of_mem (hn : c.nameFault? = none) (ha : a ∈ c.attributes) :
    c.attribute? a.name = some a := by
  have hnodup := nodup_of_nameFault? hn
  rw [attribute?]
  generalize c.attributes = attributes at ha hnodup
  induction attributes with
  | nil => cases ha
  | cons b rest ih =>
    rw [List.map_cons, List.nodup_cons] at hnodup
    rw [List.find?_cons]
    rcases List.mem_cons.1 ha with rfl | ha
    · rw [beq_self_eq_true]
    · have hne : b.name ≠ a.name := fun he => hnodup.1 (he ▸ List.mem_map_of_mem ha)
      rw [beq_false_of_ne hne]
      exact ih ha hnodup.2

end Classifier

/-! ## Attributes of a hierarchy -/

namespace Hierarchy

variable {h : Hierarchy} {c : Classifier} {a : Attribute} {id : String}

/-- A classifier resolves what it declares to its own declaration. -/
theorem resolve_declared (hc : h.find? id = some c) (ha : a ∈ c.attributes) :
    h.resolve id a.name = .ok { a with owner := id, key := c.keyOf a.name } := by
  rw [resolve_eq_ok_iff, ancestors_eq_cons hc, List.findSome?_cons, declared?,
    Classifier.attribute?_of_mem (nameFault?_of_find? hc) ha, ← id_of_find? hc]
  rfl

/-- The stored key of an attribute of a mixin denotes the attribute, whatever it is read for. -/
theorem resolveKey_wire_keyOf (hc : h.find? id = some c) (hk : c.kind = .mixin)
    (ha : a ∈ c.attributes) (other : String) :
    h.resolveKey other (c.keyOf a.name).wire =
      .ok { a with owner := id, key := c.keyOf a.name } := by
  have hres := resolve_declared hc ha
  have hm : h.isMixin id = true := isMixin_eq_true_iff.2 ⟨c, hc, hk⟩
  exact resolveKey_wire_of_isMixin hres hm other

/-- Classifiers of one list that makes a hierarchy are told apart by their ids. -/
theorem eq_of_id_eq {classifiers : List Classifier} {c₁ c₂ : Classifier}
    (hl : ofList classifiers = .ok h) (hc₁ : c₁ ∈ classifiers) (hc₂ : c₂ ∈ classifiers)
    (he : c₁.id = c₂.id) : c₁ = c₂ := by
  have h₁ := mem_toList_iff.1 ((mem_toList_of_ofList hl).2 hc₁)
  have h₂ := mem_toList_iff.1 ((mem_toList_of_ofList hl).2 hc₂)
  rw [he, h₂] at h₁
  exact (Option.some.inj h₁).symm

/-- In a hierarchy that is made of a list, attributes share a stored key only when they share
their name and one classifier or two classes declare them; no stored key is internal; and the
stored key of an attribute of a mixin denotes the attribute for every classifier, known or not. -/
theorem wire_separates {classifiers : List Classifier} (hl : ofList classifiers = .ok h) :
    (∀ c₁ ∈ classifiers, ∀ c₂ ∈ classifiers, ∀ a₁ ∈ c₁.attributes, ∀ a₂ ∈ c₂.attributes,
      (c₁.keyOf a₁.name).wire = (c₂.keyOf a₂.name).wire ↔
        a₁.name = a₂.name ∧ (c₁ = c₂ ∨ c₁.kind = .concrete ∧ c₂.kind = .concrete)) ∧
    (∀ c ∈ classifiers, ∀ a ∈ c.attributes, Key.isInternal (c.keyOf a.name).wire = false) ∧
    ∀ c ∈ classifiers, c.kind = .mixin → ∀ a ∈ c.attributes, ∀ other,
      ∃ r, h.resolveKey other (c.keyOf a.name).wire = .ok r ∧
        r.toAttribute = a ∧ r.owner = c.id ∧ r.wire = (c.keyOf a.name).wire := by
  have hfind : ∀ c ∈ classifiers, h.find? c.id = some c := by
    intro c hc
    exact mem_toList_iff.1 ((mem_toList_of_ofList hl).2 hc)
  have hname : ∀ c ∈ classifiers, c.nameFault? = none := by
    intro c hc
    exact nameFault?_of_find? (hfind c hc)
  refine ⟨?separate, ?external, ?denoted⟩
  case separate =>
    intro c₁ hc₁ c₂ hc₂ a₁ ha₁ a₂ ha₂
    rw [Classifier.wire_keyOf_eq_iff (hname c₁ hc₁) ha₁ (hname c₂ hc₂) ha₂,
      Classifier.keyOf_eq_keyOf_iff]
    constructor
    · rintro ⟨hn, ⟨hid, -⟩ | hk⟩
      · exact ⟨hn, .inl (eq_of_id_eq hl hc₁ hc₂ hid)⟩
      · exact ⟨hn, .inr hk⟩
    · rintro ⟨hn, rfl | hk⟩
      · exact ⟨hn, .inl ⟨rfl, rfl⟩⟩
      · exact ⟨hn, .inr hk⟩
  case external =>
    intro c hc a ha
    exact Classifier.isInternal_wire_keyOf (hname c hc) ha
  case denoted =>
    intro c hc hk a ha other
    exact ⟨_, resolveKey_wire_keyOf (hfind c hc) hk ha other, rfl, rfl, rfl⟩

/-- The name of a task and that of its estimate are stored apart, and the latter denotes itself
even where no such classifier is known. -/
theorem wire_separates_tasks :
    ofList tasks.toList = .ok tasks ∧
      (Key.plain "name").wire ≠ (Key.qualified "name" "Estimate").wire ∧
      ∃ r, tasks.resolveKey "Unknown" (Key.qualified "name" "Estimate").wire = .ok r ∧
        r.owner = "Estimate" := by
  have hl := ofList_toList tasks
  obtain ⟨separate, -, denoted⟩ := wire_separates hl
  let estimate : Classifier :=
    ⟨"Estimate", .mixin, some "Task", none, [⟨"name", .string⟩, ⟨"hours", .number⟩]⟩
  let task : Classifier :=
    ⟨"Task", .concrete, some "Doc", none,
      [⟨"name", .string⟩, ⟨"labels", .arrayOf .string⟩,
        ⟨"tasks", .arrayOf (.instanceOf "SubTask")⟩,
        ⟨"reviewers", .bagOf (.instanceOf "Person")⟩]⟩
  have he : estimate ∈ tasks.toList := by decide
  have ht : task ∈ tasks.toList := by decide
  refine ⟨hl, ?apart, ?unknown⟩
  case apart =>
    intro h
    have hs := (separate task ht estimate he ⟨"name", .string⟩ (by decide) ⟨"name", .string⟩
      (by decide)).1 h
    revert hs
    decide
  case unknown =>
    obtain ⟨r, hr, -, hown, -⟩ := denoted estimate he rfl ⟨"name", .string⟩ (by decide) "Unknown"
    exact ⟨r, hr, hown⟩

end Hierarchy

end TypedDocs
