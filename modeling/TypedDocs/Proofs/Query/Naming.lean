import TypedDocs.Proofs.Query.Undeclared
import TypedDocs.Proofs.Value.Redaction

/-!
# What faults name

A fault names ids, classifiers and keys; besides, the fault of a search pattern quotes it, and that
of a document says which flaw it has.  Where the names that a lookup or a comparison starts from are
among the *sources* of faults, so is what its fault says:

    (∀ n, h.Names n → o.named n) → query.Covered o →
      matchValue h full declared value query = .error fault → fault.Within h o
        when the classes of the value are named                           (within_of_matchValue)

Nothing in a fault comes from elsewhere in a value, whatever it is compared with.  Two faults of one
kind that name the same and are within such sources are the same fault, but for what they say of a
search pattern or of a type (`Fault.Alike.cases`).
-/

namespace TypedDocs

/-! ## Definitions -/

/-- The ids and the keys in the flaw. -/
def DocumentFlaw.names : DocumentFlaw → List String
  | .classIsMixin id mixin => [id, mixin]
  | .idDiffers id => [id]
  | .classDiffers classId => [classId]
  | .fixedKey key => [key]
  | .idNotText | .classNotText | .mixinsNotArray | .mixinNotText | .mixinsBelowRoot => []

/-- The ids, classifiers and keys in the fault; a search pattern is none of them. -/
def Fault.names : Fault → List String
  | .notFound id | .noConcreteClass id | .noDomain id | .alreadyExists id
  | .cyclicInheritance id | .notAMixin id => [id]
  | .attributeNotFound classId name | .duplicateAttribute classId name => [classId, name]
  | .incompatibleMixin mixin classId => [mixin, classId]
  | .patternRequired key | .selectorMismatch key => [key]
  | .wrongType name _ => [name]
  | .invalidIdentifier text => [text]
  | .invalidDocument flaw => flaw.names
  | .objectNotFound | .invalidPattern _ _ => []

/-- The kind of a fault, which says nothing of ids, classifiers, keys and texts. -/
inductive FaultKind where
  | notFound
  | attributeNotFound
  | noDomain
  | patternRequired
  | selectorMismatch
  | wrongType
  | objectNotFound
  | alreadyExists
  | invalidIdentifier
  | cyclicInheritance
  | notAMixin
  | incompatibleMixin
  | invalidPattern
  | invalidDocument
deriving DecidableEq

/-- The kind of the fault. -/
def Fault.kind : Fault → FaultKind
  | .notFound _ | .noConcreteClass _ => .notFound
  | .attributeNotFound _ _ => .attributeNotFound
  | .noDomain _ => .noDomain
  | .patternRequired _ => .patternRequired
  | .selectorMismatch _ => .selectorMismatch
  | .wrongType _ _ => .wrongType
  | .objectNotFound => .objectNotFound
  | .alreadyExists _ | .duplicateAttribute _ _ => .alreadyExists
  | .invalidIdentifier _ => .invalidIdentifier
  | .cyclicInheritance _ => .cyclicInheritance
  | .notAMixin _ => .notAMixin
  | .incompatibleMixin _ _ => .incompatibleMixin
  | .invalidPattern _ _ => .invalidPattern
  | .invalidDocument _ => .invalidDocument

/-- The faults are of one kind and name the same. -/
structure Fault.Alike (fault fault' : Fault) : Prop where
  kind : fault.kind = fault'.kind
  names : fault.names = fault'.names

/-- What faults may say: their names, the search patterns that are none, and the flaws. -/
structure Fault.Sources where
  named : String → Prop
  searched : String → PatternError → Prop
  flawed : DocumentFlaw → Prop

/-- Sources that bound the names only. -/
def Fault.Sources.ofNames (Named : String → Prop) : Fault.Sources :=
  ⟨Named, fun _ _ => True, fun _ => True⟩

/-- The fault says what its sources have; of a classifier that is not found there is none, and one
without a concrete class there is. -/
def Fault.Within (h : Hierarchy) (o : Fault.Sources) : Fault → Prop
  | .invalidPattern pattern reason => o.searched pattern reason
  | .invalidDocument flaw => o.flawed flaw ∧ ∀ n ∈ flaw.names, o.named n
  | .notFound id => h.find? id = none ∧ o.named id
  | .noConcreteClass id => h.find? id ≠ none ∧ o.named id
  | fault => ∀ n ∈ fault.names, o.named n

/-- The names in a hierarchy: its classifiers, their attributes, and the classes of embedded objects
that these declare. -/
inductive Hierarchy.Names (h : Hierarchy) : String → Prop where
  | classifier {c : Classifier} (hc : c ∈ h.toList) : Names h c.id
  | attribute {c : Classifier} {a : Attribute} (hc : c ∈ h.toList) (ha : a ∈ c.attributes) :
    Names h a.name
  | element {classId : String} (hd : h.Declares classId) : Names h classId

variable {ρ : Type} [Pattern.Engine ρ]

/-- The names of the value, and its search patterns that are none, are among the sources. -/
structure Value.Covered (o : Fault.Sources) (value : Value) : Prop where
  named : ∃ internal, ∀ n ∈ value.names internal, o.named n
  searched : ∀ {pattern options reason}, value.Searches pattern options →
    Pattern.compile pattern options = .error reason → o.searched pattern reason

variable {h : Hierarchy} {o : Fault.Sources} {fault : Fault} {id key name classId : String}

/-! ## Lookups -/

theorem Fault.Within.named (hf : fault.Within h o) : ∀ n ∈ fault.names, o.named n := by
  cases fault with
  | invalidPattern pattern reason => exact List.forall_mem_nil _
  | invalidDocument flaw => exact hf.2
  | notFound id => exact List.forall_mem_singleton.2 hf.2
  | noConcreteClass id => exact List.forall_mem_singleton.2 hf.2
  | _ => exact hf

/-- Faults that are alike are the same but for what they say of a search pattern or of a type. -/
theorem Fault.Alike.cases {fault' : Fault} {o' : Fault.Sources} (ha : fault.Alike fault')
    (hf : fault.Within h o) (hf' : fault'.Within h o')
    (hflaws : ∀ flaw flaw', o.flawed flaw → o'.flawed flaw' → flaw = flaw') :
    fault = fault' ∨
      (∃ p reason p' reason', fault = .invalidPattern p reason ∧
        fault' = .invalidPattern p' reason') ∨
      ∃ name e e', e ≠ e' ∧ fault = .wrongType name e ∧ fault' = .wrongType name e' := by
  obtain ⟨hkind, hnames⟩ := ha
  cases fault <;> cases fault' <;> cases hkind
  case notFound.noConcreteClass =>
    cases hnames
    exact absurd hf.1 hf'.1
  case noConcreteClass.notFound =>
    cases hnames
    exact absurd hf'.1 hf.1
  case alreadyExists.duplicateAttribute => cases hnames
  case duplicateAttribute.alreadyExists => cases hnames
  case wrongType.wrongType name e _ e' =>
    cases hnames
    by_cases he : e = e'
    · exact .inl (he ▸ rfl)
    · exact .inr (.inr ⟨name, e, e', he, rfl, rfl⟩)
  case invalidPattern.invalidPattern => exact .inr (.inl ⟨_, _, _, _, rfl, rfl⟩)
  case invalidDocument.invalidDocument => exact .inl (congrArg _ (hflaws _ _ hf.1 hf'.1))
  -- the names are all that a fault of any other kind says
  all_goals
    cases hnames
    exact .inl rfl

/-- What a key asks for is named when the key and its classifier are. -/
theorem Key.Asks.named {c : String} (ha : Key.Asks classId key c name) (hc : o.named classId)
    (hk : ∀ n ∈ Key.parts key, o.named n) : o.named c ∧ o.named name := by
  cases ha with
  | plain hp => exact ⟨hc, hk _ (by simp [Key.parts])⟩
  | qualified hp =>
    exact ⟨hk _ (by simp [Key.parts, hp, Key.mixin?]), hk _ (by simp [Key.parts, hp, Key.name])⟩

namespace Hierarchy

theorem within_of_resolve (hid : o.named id) (hname : o.named name)
    (hr : h.resolve id name = .error fault) : fault.Within h o := by
  rcases resolve_eq_error hr with ⟨rfl, hnone⟩ | rfl
  · exact ⟨hnone, hid⟩
  · simp [Fault.Within, Fault.names, hid, hname]

theorem within_of_resolveKey (hc : o.named classId) (hk : ∀ n ∈ Key.parts key, o.named n)
    (hr : h.resolveKey classId key = .error fault) : fault.Within h o := by
  obtain ⟨c, name, ha⟩ := exists_asks classId key
  rw [resolveKey_of_asks ha] at hr
  obtain ⟨hc, hname⟩ := ha.named hc hk
  exact within_of_resolve hc hname hr

theorem within_of_get (hid : o.named id) (hg : h.get id = .error fault) : fault.Within h o := by
  rw [get] at hg
  cases hf : h.find? id with
  | some c =>
    rw [hf] at hg
    cases hg
  | none =>
    rw [hf] at hg
    cases hg
    exact ⟨hf, hid⟩

theorem within_of_concreteClass (hid : o.named id) (hb : h.concreteClass id = .error fault) :
    fault.Within h o := by
  rcases Query.bind_eq_error hb with hg | ⟨c, hg, hfind⟩
  · exact within_of_get hid hg
  · split at hfind
    · cases hfind
    · cases hfind
      exact ⟨by simp [get_eq_ok_iff.1 hg], hid⟩

theorem within_of_checkMixin {mixin : String} (hc : o.named classId) (hm : o.named mixin)
    (hr : h.checkMixin classId mixin = .error fault) : fault.Within h o := by
  rcases Query.bind_eq_error hr with hg | ⟨c, -, hr⟩
  · exact within_of_get hm hg
  · simp only at hr
    split at hr
    · cases hr
      exact List.forall_mem_singleton.2 hm
    · rcases Query.bind_eq_error hr with hb | ⟨base, -, hr⟩
      · exact within_of_concreteClass hm hb
      · split at hr
        · cases hr
        · cases hr
          simp [Fault.Within, Fault.names, hm, hc]

theorem within_of_checkMixins {mixins : Value} (hc : o.named classId)
    (hm : ∀ n ∈ mixins.names true, o.named n)
    (hflaw : ∀ flaw, fault = .invalidDocument flaw → o.flawed flaw)
    (hr : h.checkMixins classId mixins = .error fault) : fault.Within h o := by
  cases mixins with
  | array items =>
    rw [checkMixins] at hr
    rw [Value.names] at hm
    induction items with
    | nil => cases hr
    | cons item rest ih =>
      rw [Value.itemNames, List.forall_mem_append] at hm
      rw [checkMixinItems] at hr
      cases item with
      | string mixin =>
        rcases Query.bind_eq_error hr with hmixin | ⟨_, -, hrest⟩
        · exact within_of_checkMixin hc (hm.1 mixin (by simp [Value.names])) hmixin
        · exact ih hm.2 hrest
      | _ =>
        cases hr
        exact ⟨hflaw _ rfl, List.forall_mem_nil _⟩
  | _ =>
    cases hr
    exact ⟨hflaw _ rfl, List.forall_mem_nil _⟩

/-- The mixins in a value are no payload. -/
theorem checkMixins_redact (h : Hierarchy) (classId : String) (mixins : Value) :
    h.checkMixins classId (mixins.redact true) = h.checkMixins classId mixins := by
  cases mixins with
  | array items =>
    rw [Value.redact, checkMixins, checkMixins]
    induction items with
    | nil => rfl
    | cons item rest ih =>
      have hitem : (item.redact true).string? = item.string? := by
        cases item <;> rfl
      rw [Value.redactItems, checkMixinItems, checkMixinItems, hitem, ih]
  | _ => rfl

theorem Names.of_resolve {attr : ResolvedAttribute} (hr : h.resolve id name = .ok attr) :
    h.Names attr.name := by
  obtain ⟨c, hc, a, ha, -, rfl⟩ := exists_owner hr
  exact .attribute (mem_toList_iff.2 (find?_of_mem_ancestors hc)) ha

end Hierarchy

/-! ## Comparisons -/

namespace Query

/-- Where the names of the hierarchy are among the sources, every covered query has its faults
within. -/
theorem bounds_covered (hh : ∀ n, h.Names n → o.named n) :
    Bounds h o.named (Value.Covered o) (Fault.Within h o) where
  item {patterns} hq p hp := by
    obtain ⟨⟨internal, hnamed⟩, hsearched⟩ := hq
    refine ⟨⟨internal, fun n hn => hnamed n ?_⟩, fun hs hc => hsearched (.item hp hs) hc⟩
    rw [Value.names]
    exact Value.mem_itemNames_iff.2 ⟨p, hp, hn⟩
  field {wanted} hq e he := by
    obtain ⟨⟨internal, hnamed⟩, hsearched⟩ := hq
    refine ⟨⟨Key.isInternal e.1, fun n hn => hnamed n ?_⟩,
      fun hs hc => hsearched (.field he hs) hc⟩
    rw [Value.names]
    exact Value.mem_fieldNames_iff.2 ⟨e, he, .inr hn⟩
  pattern hq hp hc := hq.searched (.here hp) hc
  key {wanted e c fault} hq he hc hres := by
    obtain ⟨internal, hnamed⟩ := hq.named
    have hkey : ∀ n ∈ Key.parts e.1, o.named n := fun n hn => hnamed n (by
      rw [Value.names]
      exact Value.mem_fieldNames_iff.2 ⟨e, he, .inl hn⟩)
    exact .inl (Hierarchy.within_of_resolveKey (hc.elim id fun hd => hh c (.element hd)) hkey hres)

/-- A fault of a comparison names keys of the query, classes of the value, and what the hierarchy
names; a search pattern that is none is one of the query. -/
theorem within_of_matchValue (hh : ∀ n, h.Names n → o.named n) {full : Bool}
    {declared : Option String} {value query : Value}
    (hd : ∀ c, declared = some c → o.named c) (ht : ∀ t ∈ value.tags, o.named t)
    (hq : query.Covered o) (hm : matchValue h full declared value query = .error fault) :
    fault.Within h o :=
  (bounds_covered hh).known_matchValue value (fun c hc => .inl (hd c hc)) ht hq hm

end Query

end TypedDocs
