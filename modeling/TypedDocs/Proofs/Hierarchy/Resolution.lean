import TypedDocs.Hierarchy.Typing
import TypedDocs.Proofs.Hierarchy.Chain

/-!
# Attributes and their keys

What a resolved attribute is: the declaration of the nearest classifier that has its name.  It
is resolved again from its owner, from every classifier between, and from its stored key.

    h.resolve id name = .ok r → h.resolve r.owner name = .ok r        (resolve_owner)
    h.ReadsMixin key → h.resolveKey id key = .ok r →
      h.resolveKey id r.wire = .ok r                                  (resolveKey_wire)
    h.resolve id name = .ok r → Key.isInternal r.wire = false         (isInternal_wire_of_resolve)

No attribute is stored under an internal key, as no name of an attribute is one.
-/

namespace TypedDocs

/-! ## Keys -/

theorem Key.isInternal_wire (k : Key) : Key.isInternal k.wire = Key.isInternal k.name := by
  cases k with
  | plain name => rfl
  | qualified name mixin =>
    simp only [Key.isInternal, Key.wire, Key.name, String.toList_ofList]
    cases name.toList with
    | nil => rfl
    | cons c rest => rfl

theorem Key.ne_of_isInternal {a b : String} (ha : Key.isInternal a = true)
    (hb : Key.isInternal b = false) : a ≠ b := by
  intro he
  rw [he, hb] at ha
  cases ha

theorem Document.isInternal_idKey : Key.isInternal idKey = true := by decide

theorem Document.isInternal_classKey : Key.isInternal classKey = true := by decide

theorem Document.isInternal_mixinsKey : Key.isInternal mixinsKey = true := by decide

theorem Key.not_mem_of_isIdentifier {s : String} (hs : Key.isIdentifier s = true) :
    Key.bar ∉ s.toList ∧ Key.tilde ∉ s.toList := by
  simp only [Key.isIdentifier, Bool.and_eq_true, Bool.not_eq_true'] at hs
  constructor
  · intro hm
    simp [hm] at hs
  · intro hm
    simp [hm] at hs

theorem Key.eq_of_parse_plain {key name : String} (hp : Key.parse key = .plain name) :
    name = key := by
  rw [Key.parse] at hp
  split at hp
  · cases hp
    rfl
  · cases hp

/-! ## Names that a classifier gives -/

namespace Classifier

theorem attributeFault?_eq_none_iff {classId : String} {seen : List String}
    {attrs : List Attribute} :
    attributeFault? classId seen attrs = none ↔
      (∀ a ∈ attrs, (Key.isIdentifier a.name = true ∧ Key.isInternal a.name = false) ∧
        a.name ∉ seen) ∧ (attrs.map Attribute.name).Nodup := by
  induction attrs generalizing seen with
  | nil => simp [attributeFault?]
  | cons b rest ih =>
    rw [attributeFault?, List.forall_mem_cons, List.map_cons, List.nodup_cons]
    split
    · next hb =>
      simp only [reduceCtorEq, false_iff]
      rintro ⟨⟨⟨⟨hid, hint⟩, -⟩, -⟩, -⟩
      simp [hid, hint] at hb
    · next hb =>
      simp only [Bool.or_eq_true, Bool.not_eq_true', not_or, Bool.not_eq_false,
        Bool.not_eq_true] at hb
      split
      · next hseen =>
        simp only [reduceCtorEq, false_iff]
        rintro ⟨⟨⟨-, hnew⟩, -⟩, -⟩
        exact hnew (by simpa using hseen)
      · next hseen =>
        rw [ih]
        constructor
        · rintro ⟨hall, hnodup⟩
          refine ⟨⟨⟨hb, by simpa using hseen⟩, fun a ha => ?_⟩, fun hm => ?_, hnodup⟩
          · exact ⟨(hall a ha).1, fun hm => (hall a ha).2 (List.mem_cons_of_mem _ hm)⟩
          · obtain ⟨a, ha, he⟩ := List.mem_map.1 hm
            exact (hall a ha).2 (he ▸ List.mem_cons_self)
        · rintro ⟨⟨-, hall⟩, hnotin, hnodup⟩
          refine ⟨fun a ha => ⟨(hall a ha).1, fun hm => ?_⟩, hnodup⟩
          rcases List.mem_cons.1 hm with he | hm
          · exact hnotin (he ▸ List.mem_map_of_mem ha)
          · exact (hall a ha).2 hm

theorem nameFault?_eq_none_iff {c : Classifier} :
    c.nameFault? = none ↔ Key.isIdentifier c.id = true ∧
      (∀ a ∈ c.attributes, Key.isIdentifier a.name = true ∧ Key.isInternal a.name = false) ∧
        (c.attributes.map Attribute.name).Nodup := by
  rw [nameFault?]
  split
  · next hc =>
    simp only [reduceCtorEq, false_iff]
    rintro ⟨hid, -⟩
    simp [hid] at hc
  · next hc =>
    rw [attributeFault?_eq_none_iff]
    simp only [Bool.not_eq_true', Bool.not_eq_false] at hc
    simp only [hc, List.not_mem_nil, not_false_eq_true, and_true, true_and]

theorem names_of_nameFault? {c : Classifier} (hn : c.nameFault? = none) :
    Key.isIdentifier c.id = true ∧
      ∀ a ∈ c.attributes, Key.isIdentifier a.name = true ∧ Key.isInternal a.name = false :=
  have ⟨hid, hnames, _⟩ := nameFault?_eq_none_iff.1 hn
  ⟨hid, hnames⟩

theorem nodup_of_nameFault? {c : Classifier} (hn : c.nameFault? = none) :
    (c.attributes.map Attribute.name).Nodup :=
  (nameFault?_eq_none_iff.1 hn).2.2

theorem attribute?_eq_some {c : Classifier} {name : String} {a : Attribute}
    (ha : c.attribute? name = some a) : a ∈ c.attributes ∧ a.name = name :=
  ⟨List.mem_of_find?_eq_some ha, by simpa using List.find?_some ha⟩

/-- The classifier itself declares an attribute with the name. -/
def Declares (c : Classifier) (name : String) : Prop := ∃ a ∈ c.attributes, a.name = name

theorem attribute?_eq_none_iff {c : Classifier} {name : String} :
    c.attribute? name = none ↔ ¬ c.Declares name := by
  rw [attribute?, List.find?_eq_none, Declares]
  constructor
  · rintro hnone ⟨a, ha, hn⟩
    exact hnone a ha (by simpa using hn)
  · intro hnot a ha hn
    exact hnot ⟨a, ha, by simpa using hn⟩

@[simp] theorem name_keyOf (c : Classifier) (name : String) : (c.keyOf name).name = name := by
  rw [keyOf]
  cases c.kind <;> rfl

end Classifier

namespace Hierarchy

variable {h : Hierarchy} {id name : String} {r : ResolvedAttribute}

/-! ## The nearest declaration -/

theorem resolve_eq_ok_iff :
    h.resolve id name = .ok r ↔
      (h.ancestors id).findSome? (fun c => declared? c name) = some r := by
  rw [resolve]
  cases hf : h.find? id with
  | none => simp [get, hf, ancestors_eq_nil hf]
  | some c =>
    simp only [get, hf, ok_bind]
    cases (h.ancestors id).findSome? fun c => declared? c name <;> simp

theorem declared?_eq_some {c : Classifier} (hr : declared? c name = some r) :
    ∃ a ∈ c.attributes, a.name = name ∧ r = { a with owner := c.id, key := c.keyOf name } := by
  obtain ⟨a, ha, rfl⟩ := Option.map_eq_some_iff.1 hr
  obtain ⟨hm, hn⟩ := Classifier.attribute?_eq_some ha
  exact ⟨a, hm, hn, rfl⟩

theorem declared?_eq_none_iff {c : Classifier} : declared? c name = none ↔ ¬ c.Declares name := by
  rw [declared?, Option.map_eq_none_iff, Classifier.attribute?_eq_none_iff]

/-- The owner of a resolved attribute stands on the chain and declares it. -/
theorem exists_owner (hr : h.resolve id name = .ok r) :
    ∃ c ∈ h.ancestors id, ∃ a ∈ c.attributes, a.name = name ∧
      r = { a with owner := c.id, key := c.keyOf name } := by
  obtain ⟨c, hc, hd⟩ := List.exists_of_findSome?_eq_some (resolve_eq_ok_iff.1 hr)
  exact ⟨c, hc, declared?_eq_some hd⟩

theorem name_of_resolve (hr : h.resolve id name = .ok r) : r.name = name := by
  obtain ⟨c, hc, a, ha, hn, rfl⟩ := exists_owner hr
  exact hn

theorem identifier_of_resolve (hr : h.resolve id name = .ok r) :
    Key.isIdentifier name = true ∧ Key.isInternal name = false := by
  obtain ⟨c, hc, a, ha, rfl, rfl⟩ := exists_owner hr
  exact (Classifier.names_of_nameFault? (nameFault?_of_find? (find?_of_mem_ancestors hc))).2 a ha

theorem isInternal_wire_of_resolve (hr : h.resolve id name = .ok r) :
    Key.isInternal r.wire = false := by
  have hn := (identifier_of_resolve hr).2
  obtain ⟨c, hc, a, ha, rfl, rfl⟩ := exists_owner hr
  rw [ResolvedAttribute.wire, Key.isInternal_wire, Classifier.name_keyOf]
  exact hn

theorem isInternal_wire_of_resolveKey {key : String} (hr : h.resolveKey id key = .ok r) :
    Key.isInternal r.wire = false := by
  rw [resolveKey] at hr
  cases hk : Key.parse key with
  | plain n =>
    rw [hk] at hr
    exact isInternal_wire_of_resolve hr
  | qualified n m =>
    rw [hk] at hr
    exact isInternal_wire_of_resolve hr

theorem exists_resolve_of_resolveKey {key : String} (hr : h.resolveKey id key = .ok r) :
    ∃ owner name, h.resolve owner name = .ok r := by
  rw [resolveKey] at hr
  split at hr
  · exact ⟨id, key, hr⟩
  · exact ⟨_, _, hr⟩

theorem isSubtype_owner (hr : h.resolve id name = .ok r) : h.isSubtype id r.owner = true := by
  obtain ⟨c, hc, a, ha, hn, rfl⟩ := exists_owner hr
  exact isSubtype_iff.2 ⟨c, hc, rfl⟩

/-- A classifier on the way to the owner has the attribute too, from the same owner. -/
theorem resolve_of_between {mid : String} (hr : h.resolve id name = .ok r)
    (hmid : h.isSubtype id mid = true) (hown : h.isSubtype mid r.owner = true) :
    h.resolve mid name = .ok r := by
  obtain ⟨before, c, after, hl, hd, hnone⟩ :=
    List.findSome?_eq_some_iff.1 (resolve_eq_ok_iff.1 hr)
  have hc : r.owner = c.id := by
    obtain ⟨a, ha, hn, rfl⟩ := declared?_eq_some hd
    rfl
  have hs : c :: after <:+ h.ancestors id := ⟨before, hl.symm⟩
  have htail : c :: after <:+ h.ancestors mid := by
    rw [← (find?_and_ancestors_of_suffix hs).2, ← hc]
    exact ancestors_suffix hown
  obtain ⟨front, hfront⟩ := htail
  obtain ⟨skipped, hskipped⟩ := ancestors_suffix hmid
  have hbefore : before = skipped ++ front := by
    rw [← hfront, hl, ← List.append_assoc] at hskipped
    exact (List.append_cancel_right hskipped).symm
  refine resolve_eq_ok_iff.2 (List.findSome?_eq_some_iff.2 ⟨front, c, after, hfront.symm, hd, ?_⟩)
  intro x hx
  exact hnone x (by rw [hbefore]; exact List.mem_append_right _ hx)

/-- A classifier has the attributes of those it extends, though perhaps declared nearer. -/
theorem exists_resolve_of_isSubtype (hs : h.isSubtype id base = true)
    (hr : h.resolve base name = .ok r) : ∃ r', h.resolve id name = .ok r' := by
  obtain ⟨r', hr'⟩ := exists_findSome?_of_isSubtype hs (resolve_eq_ok_iff.1 hr)
  exact ⟨r', resolve_eq_ok_iff.2 hr'⟩

theorem resolve_owner (hr : h.resolve id name = .ok r) : h.resolve r.owner name = .ok r := by
  have hown := isSubtype_owner hr
  obtain ⟨c, hc⟩ := (find?_of_isSubtype hown).2
  exact resolve_of_between hr hown (isSubtype_refl hc)

/-! ## Stored keys -/

/-- The key of an attribute is its name when a class declares it, else its name with the
mixin. -/
theorem key_of_resolve (hr : h.resolve id name = .ok r) :
    (h.isMixin r.owner = false ∧ r.key = .plain name) ∨
      (h.isMixin r.owner = true ∧ r.key = .qualified name r.owner) := by
  obtain ⟨c, hc, a, ha, hn, rfl⟩ := exists_owner hr
  have hf := find?_of_mem_ancestors hc
  cases hk : c.kind with
  | concrete =>
    left
    exact ⟨by simp [isMixin, hf, Classifier.isMixin, hk], by simp [Classifier.keyOf, hk]⟩
  | mixin =>
    right
    exact ⟨by simp [isMixin, hf, Classifier.isMixin, hk], by simp [Classifier.keyOf, hk]⟩

theorem parse_wire_of_resolve (hr : h.resolve id name = .ok r) : Key.parse r.wire = r.key := by
  have hbar := (Key.not_mem_of_isIdentifier (identifier_of_resolve hr).1).1
  rw [ResolvedAttribute.wire]
  rcases key_of_resolve hr with ⟨-, hk⟩ | ⟨-, hk⟩
  · rw [hk]
    exact Key.parse_wire_plain hbar
  · obtain ⟨c, hc⟩ := (find?_of_isSubtype (isSubtype_owner hr)).2
    have hid := (Classifier.names_of_nameFault? (nameFault?_of_find? hc)).1
    rw [id_of_find? hc] at hid
    rw [hk]
    exact Key.parse_wire_qualified hbar (Key.not_mem_of_isIdentifier hid).2

/-- The stored key of an attribute of a mixin denotes that attribute for every classifier. -/
theorem resolveKey_wire_of_isMixin (hr : h.resolve id name = .ok r)
    (hm : h.isMixin r.owner = true) (other : String) : h.resolveKey other r.wire = .ok r := by
  rw [resolveKey, parse_wire_of_resolve hr]
  rcases key_of_resolve hr with ⟨hc, -⟩ | ⟨-, hk⟩
  · rw [hm] at hc
    cases hc
  · rw [hk]
    exact resolve_owner hr

/-- The stored key of an attribute of a class is looked up like its name. -/
theorem resolveKey_wire_of_concrete (hr : h.resolve id name = .ok r)
    (hm : h.isMixin r.owner = false) (other : String) :
    r.wire = name ∧ h.resolveKey other r.wire = h.resolve other name := by
  rcases key_of_resolve hr with ⟨-, hk⟩ | ⟨hc, -⟩
  · have hw : r.wire = name := by rw [ResolvedAttribute.wire, hk, Key.wire]
    rw [resolveKey, parse_wire_of_resolve hr, hk, hw]
    exact ⟨rfl, rfl⟩
  · rw [hm] at hc
    cases hc

/-- A key that names a mixin, if it does, is read for an attribute of a mixin. -/
def ReadsMixin (h : Hierarchy) (key : String) : Prop :=
  ∀ name mixin r, Key.parse key = .qualified name mixin → h.resolve mixin name = .ok r →
    h.isMixin r.owner = true

/-- An attribute is one of a mixin, or its key is its name and it was looked up by it. -/
theorem resolveKey_cases {key : String} (hq : h.ReadsMixin key)
    (hr : h.resolveKey id key = .ok r) :
    (h.isMixin r.owner = true ∧ ∃ mid name, h.resolve mid name = .ok r) ∨
      h.isMixin r.owner = false ∧ h.resolve id key = .ok r := by
  rw [resolveKey] at hr
  cases hp : Key.parse key with
  | plain name =>
    rw [hp] at hr
    cases hm : h.isMixin r.owner with
    | true => exact .inl ⟨rfl, id, key, hr⟩
    | false => exact .inr ⟨rfl, hr⟩
  | qualified name mixin =>
    rw [hp] at hr
    exact .inl ⟨hq name mixin r hp hr, mixin, name, hr⟩

/-- The key under which an attribute is stored denotes it again, for the classifier and for its
concrete class. -/
theorem resolveKey_wire {key other : String} (hq : h.ReadsMixin key)
    (hr : h.resolveKey id key = .ok r) (ho : other = id ∨ h.concreteClass id = .ok other) :
    h.resolveKey other r.wire = .ok r := by
  rcases resolveKey_cases hq hr with ⟨hm, mid, name, hres⟩ | ⟨hm, hres⟩
  · exact resolveKey_wire_of_isMixin hres hm other
  · rw [(resolveKey_wire_of_concrete hres hm other).2]
    rcases ho with rfl | hb
    · exact hres
    · obtain ⟨c, hc, a, ha, hn, he⟩ := exists_owner hres
      have hk : c.kind = .concrete := by
        refine kind_of_isMixin_eq_false ?_ (find?_of_mem_ancestors hc)
        rw [he] at hm
        exact hm
      have hown : h.isSubtype other r.owner = true := by
        rw [he]
        exact isSubtype_of_concreteClass hb hc hk
      exact resolve_of_between hres (isSubtype_concreteClass hb) hown

/-- What is stored under a key that is a plain one is read under it. -/
theorem key_eq_wire {key : String} (hq : h.ReadsMixin key) (hr : h.resolveKey id key = .ok r)
    (hp : Key.parse r.wire = .plain r.wire) : key = r.wire := by
  rcases resolveKey_cases hq hr with ⟨hm, mid, name, hres⟩ | ⟨hm, hres⟩
  · rcases key_of_resolve hres with ⟨hc, -⟩ | ⟨-, hk⟩
    · rw [hm] at hc
      cases hc
    · rw [parse_wire_of_resolve hres, hk] at hp
      cases hp
  · exact (resolveKey_wire_of_concrete hres hm id).1.symm

/-! ## Applicable mixins -/

/-- A mixin that can be applied to documents of a class. -/
def Applies (h : Hierarchy) (classId mixin : String) : Prop :=
  h.isMixin mixin = true ∧ ∃ base, h.concreteClass mixin = .ok base ∧
    h.isSubtype classId base = true

theorem checkMixin_eq_ok_iff {classId mixin : String} :
    h.checkMixin classId mixin = .ok () ↔ h.Applies classId mixin := by
  rw [checkMixin, Applies, isMixin_eq_true_iff]
  cases hf : h.find? mixin with
  | none => simp [get, hf]
  | some c =>
    cases hk : c.kind with
    | concrete => simp [get, hf, hk]
    | mixin =>
      cases hb : h.concreteClass mixin with
      | error fault => simp [get, hf, hk]
      | ok base =>
        cases hs : h.isSubtype classId base <;>
          simp [get, hf, hk, hs]

theorem checkMixinItems_eq_ok_iff {classId : String} {items : List Value} :
    h.checkMixinItems classId items = .ok () ↔
      ∀ item ∈ items, ∃ mixin, item = .string mixin ∧ h.Applies classId mixin := by
  induction items with
  | nil => simp [checkMixinItems]
  | cons item rest ih =>
    rw [checkMixinItems, List.forall_mem_cons, ← ih]
    cases item with
    | string mixin =>
      simp only [Value.string?]
      cases hm : h.checkMixin classId mixin with
      | error fault =>
        have hna : ¬ h.Applies classId mixin := fun ha => by
          rw [checkMixin_eq_ok_iff.2 ha] at hm
          cases hm
        simp [hna]
      | ok u =>
        have ha := checkMixin_eq_ok_iff.1 hm
        simp [ha]
    | _ => simp [Value.string?]

theorem checkMixins_eq_ok_iff {classId : String} {value : Value} :
    h.checkMixins classId value = .ok () ↔
      ∃ items, value = .array items ∧
        ∀ item ∈ items, ∃ mixin, item = .string mixin ∧ h.Applies classId mixin := by
  cases value with
  | array items => simp [checkMixins, checkMixinItems_eq_ok_iff]
  | _ => simp [checkMixins]

/-! ## A hierarchy of tasks -/

/-- Tasks with their subtasks and reviewers, which are embedded, and a mixin of tasks. -/
def tasks : Hierarchy where
  classifiers :=
    [("Doc", ⟨"Doc", .concrete, none, some "model", []⟩),
     ("Estimate", ⟨"Estimate", .mixin, some "Task", none,
       [⟨"name", .string⟩, ⟨"hours", .number⟩]⟩),
     ("Person", ⟨"Person", .concrete, none, none, [⟨"login", .string⟩]⟩),
     ("SubTask", ⟨"SubTask", .concrete, none, none, [⟨"name", .string⟩, ⟨"rate", .number⟩]⟩),
     ("Task", ⟨"Task", .concrete, some "Doc", none,
       [⟨"name", .string⟩, ⟨"labels", .arrayOf .string⟩,
        ⟨"tasks", .arrayOf (.instanceOf "SubTask")⟩,
        ⟨"reviewers", .bagOf (.instanceOf "Person")⟩]⟩)]
  sorted := by decide
  named := by decide
  grounded := by decide

end Hierarchy

end TypedDocs
