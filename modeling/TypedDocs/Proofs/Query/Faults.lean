import TypedDocs.Proofs.Hierarchy.Loading
import TypedDocs.Proofs.Hierarchy.Resolution
import TypedDocs.Proofs.Query.Steps

/-!
# What makes a query fail

A comparison fails by a search pattern that is none or by a key that cannot be looked up, for an
embedded object by its class: one that the object names itself or an attribute declares.  What these
give bounds the faults of every comparison; that a class lacks a key is a miss below the root.

    Bounds h Named Asked Known → Asked query →
      matchValue h full declared value query = .error fault → Known fault
        when `Named` has the classes that the value names               (Bounds.known_matchValue)

A *plain* query names no mixin and holds no search pattern, so that it fails by a class that is not
in the hierarchy, and by nothing else (`bounds_plain`).
-/

namespace TypedDocs

/-! ## Definitions -/

namespace Value

mutual

/-- The classes that the objects in a value name, at any depth. -/
def tags : Value → List String
  | .array items => itemTags items
  | .object fields => (Document.tag? fields).toList ++ fieldTags fields
  | _ => []

/-- The classes named in the items of an array. -/
def itemTags : List Value → List String
  | [] => []
  | v :: vs => tags v ++ itemTags vs

/-- The classes named in the values of fields. -/
def fieldTags : List (String × Value) → List String
  | [] => []
  | (_, v) :: fs => tags v ++ fieldTags fs

end

end Value

/-- Some attribute of the hierarchy holds embedded objects of a class. -/
def Hierarchy.Declares (h : Hierarchy) (classId : String) : Prop :=
  ∃ c ∈ h.toList, ∃ a ∈ c.attributes, a.type.elementClass = some classId

namespace Query

mutual

/-- No key of an object in the query names a mixin, and no object holds a search pattern. -/
def Plain : Value → Prop
  | .array items => PlainItems items
  | .object fields => pattern? fields = none ∧ PlainFields fields
  | _ => True

/-- Every item is plain. -/
def PlainItems : List Value → Prop
  | [] => True
  | v :: vs => Plain v ∧ PlainItems vs

/-- No key names a mixin, and the value of every field is plain. -/
def PlainFields : List (String × Value) → Prop
  | [] => True
  | (key, v) :: fs => Key.namesMixin key = false ∧ Plain v ∧ PlainFields fs

end

variable {ρ : Type} [Pattern.Engine ρ]

/-- `Known` bounds the faults of comparing with what is `Asked`: the parts of an asked query are asked,
its patterns give known faults, and so do its keys, unless a class lacks a key; the classes are those
that are `Named` or declared. -/
structure Bounds (h : Hierarchy) (Named : String → Prop) (Asked : Value → Prop)
    (Known : Fault → Prop) : Prop where
  item : ∀ {patterns}, Asked (.array patterns) → ∀ p ∈ patterns, Asked p
  field : ∀ {wanted}, Asked (.object wanted) → ∀ e ∈ wanted, Asked e.2
  pattern : ∀ {wanted p options reason}, Asked (.object wanted) →
    pattern? wanted = some (p, options) → Pattern.compile p options = .error reason →
    Known (.invalidPattern p reason)
  key : ∀ {wanted e c fault}, Asked (.object wanted) → e ∈ wanted → Named c ∨ h.Declares c →
    h.resolveKey c e.1 = .error fault →
    Known fault ∨ ∃ classId name, fault = .attributeNotFound classId name

/-- The fault is a class that is not in the hierarchy and is a named one or one that an attribute
declares. -/
def Strays (h : Hierarchy) (Named : String → Prop) (fault : Fault) : Prop :=
  ∃ id, fault = .notFound id ∧ h.find? id = none ∧ (Named id ∨ h.Declares id)

end Query

/-! ## Classes that a value names -/

namespace Value

theorem mem_fieldTags {fields : List (String × Value)} {e : String × Value} (he : e ∈ fields)
    {t : String} (ht : t ∈ e.2.tags) : t ∈ fieldTags fields := by
  induction fields with
  | nil => cases he
  | cons first rest ih =>
    rw [fieldTags, List.mem_append]
    rcases List.mem_cons.1 he with rfl | he
    · exact .inl ht
    · exact .inr (ih he)

theorem mem_tags_of_get? {fields : Layout} {key : String} {v : Value}
    (hv : fields.get? key = some v) {t : String} (ht : t ∈ v.tags) :
    t ∈ fieldTags fields :=
  mem_fieldTags (Keyed.mem_of_get? hv) ht

end Value

/-! ## Keys without a mixin -/

theorem Key.parse_of_namesMixin {key : String} (hk : Key.namesMixin key = false) :
    Key.parse key = .plain key := by
  have hbar : Key.bar ∉ key.toList := by
    intro hm
    rw [Key.namesMixin, List.contains_iff_mem.2 hm] at hk
    cases hk
  rw [Key.parse, Key.splitBar_eq_none hbar]

namespace Hierarchy

variable {h : Hierarchy} {id key : String}

theorem resolveKey_of_namesMixin (hk : Key.namesMixin key = false) :
    h.resolveKey id key = h.resolve id key := by
  rw [resolveKey, Key.parse_of_namesMixin hk]

/-- A name is not found because the classifier is unknown or because nothing on its chain has the
name. -/
theorem resolve_eq_error {fault : Fault} (hr : h.resolve id key = .error fault) :
    (fault = .notFound id ∧ h.find? id = none) ∨ fault = .attributeNotFound id key := by
  rw [resolve, get] at hr
  cases hf : h.find? id with
  | none =>
    rw [hf] at hr
    cases hr
    exact .inl ⟨rfl, rfl⟩
  | some c =>
    rw [hf, ok_bind] at hr
    cases hfirst : (h.ancestors id).findSome? fun c => declared? c key with
    | some r =>
      rw [hfirst] at hr
      cases hr
    | none =>
      rw [hfirst] at hr
      cases hr
      exact .inr rfl

theorem declares_of_resolve {r : ResolvedAttribute} (hr : h.resolve id key = .ok r)
    {classId : String} (he : r.elementClass = some classId) : h.Declares classId := by
  obtain ⟨c, hc, a, ha, -, rfl⟩ := exists_owner hr
  exact ⟨c, mem_toList_iff.2 (find?_of_mem_ancestors hc), a, ha, he⟩

theorem declares_of_resolveKey {r : ResolvedAttribute} (hr : h.resolveKey id key = .ok r)
    {classId : String} (he : r.elementClass = some classId) : h.Declares classId := by
  obtain ⟨owner, name, hres⟩ := exists_resolve_of_resolveKey hr
  exact declares_of_resolve hres he

/-- The class of an embedded object is one that it names or the declared one. -/
theorem embeddedClass_eq_some {declared : Option String} {fields : Layout} {c : String}
    (hc : h.embeddedClass declared fields = some c) :
    c ∈ (Document.tag? fields).toList ∨ declared = some c := by
  unfold embeddedClass at hc
  cases ht : Document.tag? fields with
  | none =>
    rw [ht] at hc
    exact .inr hc
  | some tag =>
    cases declared with
    | none =>
      rw [ht] at hc
      exact .inl (by simpa using hc.symm)
    | some d =>
      simp only [ht] at hc
      split at hc
      · exact .inl (by simpa using hc.symm)
      · exact .inr hc

end Hierarchy

namespace Query

variable {ρ : Type} [Pattern.Engine ρ]
variable {h : Hierarchy} {Named : String → Prop} {Asked : Value → Prop} {Known : Fault → Prop}
  {full : Bool} {fault : Fault}

/-! ## One key, one item -/

/-- A verdict that is followed by a decision fails only where one of the two does. -/
theorem bind_eq_error {α β : Type} {e : Except Fault α} {f : α → Except Fault β}
    (hm : (e >>= f) = .error fault) :
    e = .error fault ∨ ∃ a, e = .ok a ∧ f a = .error fault := by
  cases e with
  | error reason =>
    rw [error_bind] at hm
    cases hm
    exact .inl rfl
  | ok a => exact .inr ⟨a, rfl, hm⟩

theorem missUndeclared_eq_error {r : Except Fault Bool} (hm : missUndeclared r = .error fault) :
    r = .error fault ∧ ∀ c name, fault ≠ .attributeNotFound c name := by
  unfold missUndeclared at hm
  split at hm
  · cases hm
  · cases hm
  · next reason hne =>
    cases hm
    exact ⟨rfl, hne⟩

theorem matchTyped_eq_error {attr : ResolvedAttribute} {value wanted : Value}
    (hm : matchTyped h full attr value wanted = .error fault) :
    matchValue h full attr.elementClass value wanted = .error fault ∨
      matchBag h full attr.elementClass value wanted = .error fault := by
  unfold matchTyped at hm
  split at hm
  · exact .inr hm
  · left
    cases hv : matchValue h full attr.elementClass value wanted with
    | ok v =>
      rw [hv] at hm
      cases hm
    | error reason =>
      rw [hv] at hm
      cases hm
      rfl

/-- A field fails for the rest of the query, in the value that is stored, or because its key has no
attribute. -/
theorem matchFields_cons_eq_error {classId key : String} {layout rest : Layout} {wanted : Value}
    (hm : matchFields h full classId layout ((key, wanted) :: rest) = .error fault) :
    matchFields h full classId layout rest = .error fault ∨
      (∃ value, layout.get? key = some value ∧
        matchValue h full none value wanted = .error fault) ∨
      (Key.isInternal key = false ∧ h.resolveKey classId key = .error fault) ∨
      ∃ attr value, h.resolveKey classId key = .ok attr ∧ layout.get? attr.wire = some value ∧
        (matchValue h full attr.elementClass value wanted = .error fault ∨
          matchBag h full attr.elementClass value wanted = .error fault) := by
  rw [matchFields_cons] at hm
  split at hm
  · exact .inl hm
  · split at hm
    · split at hm
      · cases hm
      · next value hv =>
        rcases bind_eq_error hm with hvalue | ⟨v, -, hrest⟩
        · exact .inr (.inl ⟨value, hv, hvalue⟩)
        · split at hrest
          · exact .inl hrest
          · cases hrest
    · next hint =>
      rcases bind_eq_error hm with hattr | ⟨attr, hattr, hm⟩
      · exact .inr (.inr (.inl ⟨by simpa using hint, hattr⟩))
      · split at hm
        · cases hm
        · next value hv =>
          rcases bind_eq_error hm with htyped | ⟨matched, -, hrest⟩
          · exact .inr (.inr (.inr ⟨attr, value, hattr, hv, matchTyped_eq_error htyped⟩))
          · split at hrest
            · exact .inl hrest
            · cases hrest

/-! ## Values -/

theorem testPattern_eq_error {pattern options : String} {value : Value}
    (ht : testPattern pattern options value = .error fault) :
    ∃ reason, fault = .invalidPattern pattern reason ∧
      Pattern.compile pattern options = .error reason := by
  rw [testPattern] at ht
  cases hc : Pattern.compile pattern options with
  | error reason =>
    rw [hc] at ht
    cases ht
    exact ⟨reason, rfl, rfl⟩
  | ok p =>
    rw [hc] at ht
    cases ht

/-- What is neither an array nor an object fails a query by its pattern only. -/
theorem Bounds.known_matchValue_leaf (hb : Bounds h Named Asked Known) {declared : Option String}
    {value query : Value} (ha : ∀ items, value ≠ .array items)
    (ho : ∀ fields, value ≠ .object fields) (hq : Asked query)
    (hm : matchValue h full declared value query = .error fault) : Known fault := by
  by_cases hwanted : ∃ wanted, query = .object wanted
  · obtain ⟨wanted, rfl⟩ := hwanted
    rw [matchValue_leaf_object ha ho] at hm
    cases hp : pattern? wanted with
    | none =>
      rw [hp] at hm
      cases hm
    | some p =>
      obtain ⟨pattern, options⟩ := p
      rw [hp, Option.elim_some] at hm
      cases ht : testPattern pattern options value with
      | ok b =>
        rw [ht] at hm
        cases hm
      | error reason =>
        rw [ht] at hm
        cases hm
        obtain ⟨reason, rfl, hc⟩ := testPattern_eq_error ht
        exact hb.pattern hq hp hc
  · have hother : ∀ wanted, query ≠ .object wanted := fun wanted he => hwanted ⟨wanted, he⟩
    rw [matchValue_leaf_other ha ho hother] at hm
    cases hm

mutual

theorem Bounds.known_matchValue (hb : Bounds h Named Asked Known) (value : Value)
    {declared : Option String} {query : Value}
    (hd : ∀ c, declared = some c → Named c ∨ h.Declares c) (ht : ∀ t ∈ value.tags, Named t)
    (hq : Asked query)
    (hm : matchValue h full declared value query = .error fault) : Known fault := by
  cases value with
  | array items =>
    rw [Value.tags] at ht
    cases query with
    | array patterns =>
      rw [matchValue_array_array] at hm
      split at hm
      · cases hm
      · exact hb.known_matchPlaces items patterns hd ht (hb.item hq) hm
    | _ =>
      rw [matchValue_array_other (by simp)] at hm
      exact hb.known_matchAny items 0 hd ht hq hm
  | object fields =>
    rw [Value.tags] at ht
    cases query with
    | object wanted =>
      rw [matchValue] at hm
      split at hm
      · cases hm
      · split at hm
        · next c hc =>
          have hnamed : Named c ∨ h.Declares c := by
            rcases Hierarchy.embeddedClass_eq_some hc with htag | hdeclared
            · exact .inl (ht c (List.mem_append_left _ htag))
            · exact hd c hdeclared
          obtain ⟨hfault, hdeclared⟩ := missUndeclared_eq_error hm
          rcases hb.known_matchFields fields wanted
              (fun t hmem => ht t (List.mem_append_right _ hmem)) (hb.field hq) hfault with
            hknown | ⟨e, he, -, hres⟩
          · exact hknown
          · rcases hb.key hq he hnamed hres with hknown | ⟨classId, name, rfl⟩
            · exact hknown
            · exact absurd rfl (hdeclared classId name)
        · cases hm
    | _ =>
      rw [matchValue_object_other (by simp)] at hm
      cases hm
  | null | bool b | number n | string s => exact hb.known_matchValue_leaf (by simp) (by simp) hq hm
termination_by (sizeOf value, 0)

theorem Bounds.known_matchPlaces (hb : Bounds h Named Asked Known) (items patterns : List Value)
    {declared : Option String} (hd : ∀ c, declared = some c → Named c ∨ h.Declares c)
    (ht : ∀ t ∈ Value.itemTags items, Named t) (hq : ∀ p ∈ patterns, Asked p)
    (hm : matchPlaces h full declared items patterns = .error fault) : Known fault := by
  cases patterns with
  | nil =>
    cases items <;> (rw [matchPlaces] at hm; cases hm)
  | cons p patterns =>
    cases items with
    | nil =>
      rw [matchPlaces] at hm
      cases hm
    | cons item items =>
      obtain ⟨hp, hpatterns⟩ := List.forall_mem_cons.1 hq
      rw [Value.itemTags] at ht
      rw [matchPlaces] at hm
      rcases bind_eq_error hm with hitem | ⟨v, -, hrest⟩
      · exact hb.known_matchValue item hd (fun t hmem => ht t (List.mem_append_left _ hmem)) hp hitem
      · split at hrest
        · cases hrest
        · exact hb.known_matchPlaces items patterns hd
            (fun t hmem => ht t (List.mem_append_right _ hmem)) hpatterns hrest
termination_by (sizeOf items, 0)

theorem Bounds.known_matchAny (hb : Bounds h Named Asked Known) (items : List Value) (index : Nat)
    {declared : Option String} {query : Value}
    (hd : ∀ c, declared = some c → Named c ∨ h.Declares c)
    (ht : ∀ t ∈ Value.itemTags items, Named t) (hq : Asked query)
    (hm : matchAny h full declared index items query = .error fault) : Known fault := by
  cases items with
  | nil =>
    rw [matchAny] at hm
    cases hm
  | cons item items =>
    rw [Value.itemTags] at ht
    rw [matchAny] at hm
    rcases bind_eq_error hm with hitem | ⟨v, -, hrest⟩
    · exact hb.known_matchValue item hd (fun t hmem => ht t (List.mem_append_left _ hmem)) hq hitem
    · split at hrest
      · cases hrest
      · exact hb.known_matchAny items (index + 1) hd
          (fun t hmem => ht t (List.mem_append_right _ hmem)) hq hrest
termination_by (sizeOf items, 0)

/-- Beside a bounded fault, a key may have no attribute for the class of the layout. -/
theorem Bounds.known_matchFields (hb : Bounds h Named Asked Known) (layout query : Layout)
    {classId : String} (ht : ∀ t ∈ Value.fieldTags layout, Named t) (hq : ∀ e ∈ query, Asked e.2)
    (hm : matchFields h full classId layout query = .error fault) :
    Known fault ∨ ∃ e ∈ query, Key.isInternal e.1 = false ∧
      h.resolveKey classId e.1 = .error fault := by
  cases query with
  | nil =>
    rw [matchFields] at hm
    cases hm
  | cons e rest =>
    obtain ⟨key, wanted⟩ := e
    obtain ⟨hwanted, hasked⟩ := List.forall_mem_cons.1 hq
    have hin {value : Value} {key : String} (hv : layout.get? key = some value) :
        ∀ t ∈ value.tags, Named t := fun t hmem => ht t (Value.mem_tags_of_get? hv hmem)
    rcases matchFields_cons_eq_error hm with
      hrest | ⟨value, hv, hvalue⟩ | ⟨hint, hattr⟩ | ⟨attr, value, hattr, hv, hvalue⟩
    · rcases hb.known_matchFields layout rest ht hasked hrest with hknown | ⟨e, he, hres⟩
      · exact .inl hknown
      · exact .inr ⟨e, List.mem_cons_of_mem _ he, hres⟩
    · have hsize := sizeOf_get?_lt hv
      exact .inl (hb.known_matchValue value (fun c hc => by cases hc) (hin hv) hwanted hvalue)
    · exact .inr ⟨(key, wanted), List.mem_cons_self, hint, hattr⟩
    · have hsize := sizeOf_get?_lt hv
      have helem : ∀ c, attr.elementClass = some c → Named c ∨ h.Declares c := fun c hc =>
        .inr (Hierarchy.declares_of_resolveKey hattr hc)
      rcases hvalue with hvalue | hbag
      · exact .inl (hb.known_matchValue value helem (hin hv) hwanted hvalue)
      · exact .inl (hb.known_matchBag value wanted helem (hin hv) hwanted hbag)
termination_by (sizeOf layout, query.length)

theorem Bounds.known_matchBag (hb : Bounds h Named Asked Known) (value query : Value)
    {declared : Option String} (hd : ∀ c, declared = some c → Named c ∨ h.Declares c)
    (ht : ∀ t ∈ value.tags, Named t) (hq : Asked query)
    (hm : matchBag h full declared value query = .error fault) : Known fault := by
  unfold matchBag at hm
  split at hm
  · next bag patterns =>
    rw [Value.tags] at ht
    exact hb.known_matchEntries bag patterns hd (fun t hmem => ht t (List.mem_append_right _ hmem))
      (hb.field hq) hm
  · cases hm
termination_by (sizeOf value, 0)

theorem Bounds.known_matchEntries (hb : Bounds h Named Asked Known) (bag patterns : Layout)
    {declared : Option String} (hd : ∀ c, declared = some c → Named c ∨ h.Declares c)
    (ht : ∀ t ∈ Value.fieldTags bag, Named t) (hq : ∀ e ∈ patterns, Asked e.2)
    (hm : matchEntries h full declared bag patterns = .error fault) : Known fault := by
  cases patterns with
  | nil =>
    rw [matchEntries] at hm
    cases hm
  | cons e rest =>
    obtain ⟨key, wanted⟩ := e
    obtain ⟨hwanted, hasked⟩ := List.forall_mem_cons.1 hq
    rw [matchEntries_cons] at hm
    split at hm
    · exact hb.known_matchEntries bag rest hd ht hasked hm
    · split at hm
      · cases hm
      · next entry hv =>
        have hsize := sizeOf_get?_lt hv
        rcases bind_eq_error hm with hentry | ⟨v, -, hrest⟩
        · exact hb.known_matchValue entry hd (fun t hmem => ht t (Value.mem_tags_of_get? hv hmem))
            hwanted hentry
        · split at hrest
          · exact hb.known_matchEntries bag rest hd ht hasked hrest
          · cases hrest
termination_by (sizeOf bag, patterns.length)

end

/-! ## Plain queries -/

theorem plainItems_iff {patterns : List Value} :
    PlainItems patterns ↔ ∀ p ∈ patterns, Plain p := by
  induction patterns with
  | nil => simp [PlainItems]
  | cons p patterns ih => rw [PlainItems, ih, List.forall_mem_cons]

theorem plainFields_iff {wanted : Layout} :
    PlainFields wanted ↔ ∀ e ∈ wanted, Key.namesMixin e.1 = false ∧ Plain e.2 := by
  induction wanted with
  | nil => simp [PlainFields]
  | cons e wanted ih => rw [PlainFields, ih, List.forall_mem_cons, and_assoc]

/-- A plain query fails by a class that strays and by nothing else. -/
theorem bounds_plain : Bounds h Named Plain (Strays h Named) where
  item hq := by
    rw [Plain] at hq
    exact plainItems_iff.1 hq
  field hq e he := by
    rw [Plain] at hq
    exact (plainFields_iff.1 hq.2 e he).2
  pattern hq hp _ := by
    rw [Plain, hp] at hq
    cases hq.1
  key {wanted e c fault} hq he hc hres := by
    rw [Plain] at hq
    rw [Hierarchy.resolveKey_of_namesMixin (plainFields_iff.1 hq.2 e he).1] at hres
    rcases Hierarchy.resolve_eq_error hres with ⟨rfl, hnone⟩ | rfl
    · exact .inl ⟨c, rfl, hnone, hc⟩
    · exact .inr ⟨c, e.1, rfl⟩

theorem matchFields_fault (layout query : Layout) {classId : String}
    (ht : ∀ t ∈ Value.fieldTags layout, Named t) (hq : PlainFields query)
    (hm : matchFields h full classId layout query = .error fault) :
    Strays h Named fault ∨ ∃ e ∈ query, Key.isInternal e.1 = false ∧
      h.resolve classId e.1 = .error fault := by
  have hplain := plainFields_iff.1 hq
  rcases bounds_plain.known_matchFields layout query ht (fun e he => (hplain e he).2) hm with
    hstray | ⟨e, he, hint, hres⟩
  · exact .inl hstray
  · rw [Hierarchy.resolveKey_of_namesMixin (hplain e he).1] at hres
    exact .inr ⟨e, he, hint, hres⟩

end Query

end TypedDocs
