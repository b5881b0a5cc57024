import Mathlib.Data.List.Forall2
import TypedDocs.Assignment
import TypedDocs.Proofs.Hierarchy.Resolution

/-!
# Assignment as an overlay

What an entry writes does not depend on the layout it is written into: a key that begins with
an underscore writes itself, any other writes its typed value under the key of its attribute.
Assigning entries to a layout that has its class writes all of that over it:

    assignEntries h strict c target entries = .ok result ↔
      ∃ writes, Forall₂ (Writes h strict c) entries writes ∧
        result = target.overlay writes                               (assignEntries_eq_ok_iff)

Whatever the target, what an assignment leaves under the key of an attribute was there or is written
by an entry (`get?_assign_cases`), and under an internal key stands what the values have there, the
key of the class apart (`get?_assignEntries_internal`).
-/

namespace TypedDocs.Assignment

variable {h : Hierarchy} {strict : Bool} {classId : String} {target result : Layout}
  {entries : List (String × Value)}

/-! ## What an entry writes -/

/-- An entry of the values writes an entry of the layout. -/
inductive Writes (h : Hierarchy) (strict : Bool) (classId : String) :
    String × Value → String × Value → Prop where
  | internal {key : String} {value : Value} (hk : Key.isInternal key = true) :
    Writes h strict classId (key, value) (key, value)
  | typed {key : String} {value typed : Value} {attr : ResolvedAttribute}
    (hk : Key.isInternal key = false) (hattr : h.resolveKey classId key = .ok attr)
    (htyped : typedValue h strict attr.name attr.type value = .ok typed) :
    Writes h strict classId (key, value) (attr.wire, typed)

theorem Writes.isInternal_eq {e w : String × Value} (hw : Writes h strict classId e w) :
    Key.isInternal w.1 = Key.isInternal e.1 := by
  cases hw with
  | internal hk => rfl
  | typed hk hattr htyped => rw [hk, Hierarchy.isInternal_wire_of_resolveKey hattr]

theorem Writes.eq_of_isInternal {e w : String × Value} (hw : Writes h strict classId e w)
    (hk : Key.isInternal e.1 = true) : w = e := by
  cases hw with
  | internal _ => rfl
  | typed hk' _ _ =>
    rw [hk] at hk'
    cases hk'

/-! ## The class of the target -/

theorem tag?_insert_of_ne {key : String} (value : Value) (hk : key ≠ Document.classKey) :
    Document.tag? (target.insert key value) = Document.tag? target := by
  rw [Document.tag?, Document.tag?, Keyed.get?_insert_of_ne target value (Ne.symm hk)]

theorem withTag_of_tag? {tag : String} (ht : Document.tag? target = some tag) :
    withTag h classId target = .ok target := by
  rw [withTag, ht]

theorem withTag_eq_ok {tagged : Layout} (ht : withTag h classId target = .ok tagged) :
    (∃ tag, Document.tag? target = some tag ∧ tagged = target) ∨
      ∃ c, Document.tag? target = none ∧ h.concreteClass classId = .ok c ∧
        tagged = target.insert Document.classKey (.string c) := by
  rw [withTag] at ht
  cases htag : Document.tag? target with
  | some tag =>
    rw [htag] at ht
    cases ht
    exact .inl ⟨tag, rfl, rfl⟩
  | none =>
    rw [htag] at ht
    cases hc : h.concreteClass classId with
    | error fault =>
      rw [hc] at ht
      cases ht
    | ok c =>
      rw [hc] at ht
      cases ht
      exact .inr ⟨c, rfl, rfl, rfl⟩

/-- A layout that holds nothing but a class. -/
theorem tag?_start (base : String) :
    Document.tag? [(Document.classKey, .string base)] = some base := by
  rw [Document.tag?, Keyed.get?, if_pos rfl]
  rfl

theorem withTag_nil {base : String} (hb : h.concreteClass classId = .ok base) :
    withTag h classId [] = .ok [(Document.classKey, .string base)] := by
  show (h.concreteClass classId).map _ = _
  rw [hb]
  rfl

theorem startEmbedded_of_concreteClass {c base : String} {fields : Layout}
    (hc : (h.embeddedClass (some classId) fields).getD classId = c)
    (hb : h.concreteClass c = .ok base) :
    startEmbedded h classId fields = .ok (c, [(Document.classKey, .string base)]) := by
  simp only [startEmbedded, hc, withTag_nil hb]
  rfl

/-- An embedded object starts with the concrete class of what types it. -/
theorem startEmbedded_eq_ok {c : String} {fields start : Layout}
    (hs : startEmbedded h classId fields = .ok (c, start)) :
    c = (h.embeddedClass (some classId) fields).getD classId ∧
      ∃ base, h.concreteClass c = .ok base ∧ start = [(Document.classKey, .string base)] := by
  simp only [startEmbedded] at hs
  cases ht : withTag h ((h.embeddedClass (some classId) fields).getD classId) [] with
  | error fault =>
    rw [ht] at hs
    cases hs
  | ok tagged =>
    rw [ht] at hs
    cases hs
    rcases withTag_eq_ok ht with ⟨tag, htag, -⟩ | ⟨base, -, hb, rfl⟩
    · cases htag
    · exact ⟨rfl, base, hb, rfl⟩

/-- No entry takes the class away from a layout. -/
def KeepsTag (entries : List (String × Value)) : Prop :=
  ∀ e ∈ entries, e.1 = Document.classKey → ∃ tag, e.2 = .string tag

theorem keepsTag_of_get? (hn : Keyed.get? entries Document.classKey = none) :
    KeepsTag entries := by
  intro e he hk
  exact absurd hk (Keyed.ne_of_get?_eq_none hn he)

/-! ## Entries one by one -/

theorem assignEntries_internal_cons {key : String} (hk : Key.isInternal key = true)
    (value : Value) (rest : List (String × Value)) :
    assignEntries h strict classId target ((key, value) :: rest) =
      assignEntries h strict classId (target.insert key value) rest := by
  rw [assignEntries, if_pos hk]

theorem assignEntries_typed_cons {key tag : String} (hk : Key.isInternal key = false)
    (ht : Document.tag? target = some tag) (value : Value) (rest : List (String × Value)) :
    assignEntries h strict classId target ((key, value) :: rest) = .ok result ↔
      ∃ attr typed, h.resolveKey classId key = .ok attr ∧
        typedValue h strict attr.name attr.type value = .ok typed ∧
        assignEntries h strict classId (target.insert attr.wire typed) rest = .ok result := by
  rw [assignEntries, hk, if_neg (by decide), Hierarchy.resolveKey, readKey]
  cases Key.parse key with
  | plain name =>
    cases hr : h.resolve classId key with
    | error fault => simp [hr]
    | ok attr =>
      cases hv : typedValue h strict attr.name attr.type value <;> simp [hr, hv]
  | qualified name mixin =>
    simp only [withTag_of_tag? ht]
    cases h.resolve mixin name with
    | error fault => simp
    | ok attr =>
      cases hv : typedValue h strict attr.name attr.type value <;> simp [hv]

/-- What the first entry does, whatever the target: it writes itself, or its typed value after the
target may have got the class of a classifier that the key names. -/
theorem assignEntries_cons_eq_ok {key : String} {value : Value} {rest : List (String × Value)}
    (hr : assignEntries h strict classId target ((key, value) :: rest) = .ok result) :
    (Key.isInternal key = true ∧
        assignEntries h strict classId (target.insert key value) rest = .ok result) ∨
      ∃ attr typed tagged, Key.isInternal key = false ∧ h.resolveKey classId key = .ok attr ∧
        typedValue h strict attr.name attr.type value = .ok typed ∧
        (tagged = target ∨ ∃ name owner, Key.parse key = .qualified name owner ∧
          withTag h owner target = .ok tagged) ∧
        assignEntries h strict classId (tagged.insert attr.wire typed) rest = .ok result := by
  rw [assignEntries] at hr
  cases hint : Key.isInternal key with
  | true =>
    rw [hint, if_pos rfl] at hr
    exact .inl ⟨rfl, hr⟩
  | false =>
    rw [hint, if_neg (by decide)] at hr
    right
    rw [Hierarchy.resolveKey]
    cases hp : Key.parse key with
    | plain name =>
      simp only [readKey, hp] at hr
      cases hres : h.resolve classId key with
      | error fault => simp [hres] at hr
      | ok attr =>
        cases hv : typedValue h strict attr.name attr.type value with
        | error fault => simp [hres, hv] at hr
        | ok typed =>
          simp only [hres, hv] at hr
          exact ⟨attr, typed, target, rfl, rfl, hv, .inl rfl, hr⟩
    | qualified name mixin =>
      simp only [readKey, hp] at hr
      cases htag : withTag h mixin target with
      | error fault => simp [htag] at hr
      | ok tagged =>
        cases hres : h.resolve mixin name with
        | error fault => simp [htag, hres] at hr
        | ok attr =>
          cases hv : typedValue h strict attr.name attr.type value with
          | error fault => simp [htag, hres, hv] at hr
          | ok typed =>
            simp only [htag, hres, hv] at hr
            exact ⟨attr, typed, tagged, rfl, hres, hv, .inr ⟨name, mixin, rfl, htag⟩, hr⟩

theorem assignEntries_eq_ok_iff {tag : String} (ht : Document.tag? target = some tag)
    (hk : KeepsTag entries) :
    assignEntries h strict classId target entries = .ok result ↔
      ∃ writes, List.Forall₂ (Writes h strict classId) entries writes ∧
        result = target.overlay writes := by
  induction entries generalizing target tag with
  | nil => simp [assignEntries, Keyed.overlay, eq_comm]
  | cons e rest ih =>
    obtain ⟨key, value⟩ := e
    obtain ⟨hkey, hrest⟩ := List.forall_mem_cons.1 hk
    simp only [List.forall₂_cons_left_iff]
    cases hint : Key.isInternal key with
    | true =>
      have htag : ∃ tag, Document.tag? (target.insert key value) = some tag := by
        by_cases he : key = Document.classKey
        · obtain ⟨t, hv⟩ := hkey he
          subst he
          exact ⟨t, by simp_all [Document.tag?, Value.string?]⟩
        · exact ⟨tag, by rw [tag?_insert_of_ne value he, ht]⟩
      obtain ⟨tag', ht'⟩ := htag
      rw [assignEntries_internal_cons hint, ih ht' hrest]
      constructor
      · rintro ⟨writes, hw, rfl⟩
        exact ⟨_, ⟨_, writes, .internal hint, hw, rfl⟩, rfl⟩
      · rintro ⟨_, ⟨w, writes, hw, hws, rfl⟩, rfl⟩
        rw [hw.eq_of_isInternal hint]
        exact ⟨writes, hws, rfl⟩
    | false =>
      rw [assignEntries_typed_cons hint ht]
      have htag (attr : ResolvedAttribute) (typed : Value)
          (ha : h.resolveKey classId key = .ok attr) :
          Document.tag? (target.insert attr.wire typed) = some tag := by
        have hwire := Hierarchy.isInternal_wire_of_resolveKey ha
        have hne := Key.ne_of_isInternal Document.isInternal_classKey hwire
        rw [tag?_insert_of_ne typed hne.symm, ht]
      constructor
      · rintro ⟨attr, typed, ha, hv, hr⟩
        obtain ⟨writes, hws, rfl⟩ := (ih (htag attr typed ha) hrest).1 hr
        exact ⟨_, ⟨_, writes, .typed hint ha hv, hws, rfl⟩, rfl⟩
      · rintro ⟨_, ⟨w, writes, hw, hws, rfl⟩, rfl⟩
        cases hw with
        | internal hi =>
          rw [hint] at hi
          cases hi
        | typed _ ha hv =>
          exact ⟨_, _, ha, hv, (ih (htag _ _ ha) hrest).2 ⟨writes, hws, rfl⟩⟩

/-! ## Any entries, into any target

An entry under the key of the class can leave a layout that names no class.  The next key that names
a classifier then gives it the class of this classifier, so what stands there in the end is not
always what the values have there.
-/

/-- Where no text was given, a class stands that a key of the entries names. -/
def Retagged (h : Hierarchy) (entries : List (String × Value)) (given found : Option Value) :
    Prop :=
  given.bind Value.string? = none ∧ ∃ e ∈ entries, ∃ name owner base,
    Key.parse e.1 = .qualified name owner ∧ h.concreteClass owner = .ok base ∧
      found = some (.string base)

theorem Retagged.cons {rest : List (String × Value)} {given found : Option Value}
    (hr : Retagged h rest given found) (e : String × Value) :
    Retagged h (e :: rest) given found := by
  obtain ⟨hnone, e', he, hname⟩ := hr
  exact ⟨hnone, e', List.mem_cons_of_mem e he, hname⟩

/-- Under an internal key stands what the values have there, else what the target had; but under the
key of the class there may stand one that the values name elsewhere. -/
theorem get?_assignEntries_internal (hn : (entries.map Prod.fst).Nodup)
    (hr : assignEntries h strict classId target entries = .ok result) {key : String}
    (hkey : Key.isInternal key = true) :
    result.get? key = (Keyed.get? entries key).or (target.get? key) ∨
      key = Document.classKey ∧
        Retagged h entries ((Keyed.get? entries key).or (target.get? key)) (result.get? key) := by
  induction entries generalizing target with
  | nil =>
    rw [assignEntries] at hr
    cases hr
    exact .inl rfl
  | cons e rest ih =>
    obtain ⟨k, v⟩ := e
    rw [List.map_cons, List.nodup_cons] at hn
    have later {given : Option Value} (hc : result.get? key = given ∨
        key = Document.classKey ∧ Retagged h rest given (result.get? key)) :
        result.get? key = given ∨
          key = Document.classKey ∧ Retagged h ((k, v) :: rest) given (result.get? key) :=
      hc.imp_right fun ⟨hclass, hret⟩ => ⟨hclass, hret.cons (k, v)⟩
    rw [Keyed.get?]
    rcases assignEntries_cons_eq_ok hr with
      ⟨-, hnext⟩ | ⟨attr, typed, tagged, hint, hattr, -, htag, hnext⟩
    · have hcases := ih hn.2 hnext
      rw [Keyed.get?_insert] at hcases
      by_cases hk : k = key
      · have hrest : Keyed.get? rest key = none := Keyed.get?_eq_none_of_not_mem (hk ▸ hn.1)
        rw [if_pos hk.symm, hrest] at hcases
        rw [if_pos hk]
        exact later hcases
      · rw [if_neg (Ne.symm hk)] at hcases
        rw [if_neg hk]
        exact later hcases
    · have hk : k ≠ key := (Key.ne_of_isInternal hkey hint).symm
      have hwire : key ≠ attr.wire :=
        Key.ne_of_isInternal hkey (Hierarchy.isInternal_wire_of_resolveKey hattr)
      have hcases := ih hn.2 hnext
      rw [Keyed.get?_insert_of_ne _ _ hwire] at hcases
      rw [if_neg hk]
      -- What stands under the key has changed only if the target named no class and has got one.
      rcases htag with rfl | ⟨name, owner, hparse, htag⟩
      · exact later hcases
      rcases withTag_eq_ok htag with ⟨tag, -, rfl⟩ | ⟨base, hnone, hbase, rfl⟩
      · exact later hcases
      rw [Keyed.get?_insert] at hcases
      split at hcases
      · next hclass =>
        subst hclass
        cases hrest : Keyed.get? rest Document.classKey with
        | some given =>
          rw [hrest] at hcases
          exact later hcases
        | none =>
          rw [hrest] at hcases
          rcases hcases with hfound | ⟨-, hstring, -⟩
          · exact .inr ⟨rfl, hnone, (k, v), List.mem_cons_self, name, owner, base, hparse, hbase,
              hfound⟩
          · cases hstring
      · exact later hcases

/-- Under an internal key other than that of the class stands what the values have there, else what
the target had. -/
theorem get?_assignEntries_of_ne_classKey (hn : (entries.map Prod.fst).Nodup)
    (hr : assignEntries h strict classId target entries = .ok result) {key : String}
    (hkey : Key.isInternal key = true) (hne : key ≠ Document.classKey) :
    result.get? key = (Keyed.get? entries key).or (target.get? key) := by
  rcases get?_assignEntries_internal hn hr hkey with hres | ⟨hk, -⟩
  · exact hres
  · exact absurd hk hne

/-- Where no entry takes the class away, under every internal key stands what the values have there,
else what the target had. -/
theorem get?_assignEntries_of_isInternal {tag : String} (ht : Document.tag? target = some tag)
    (hk : KeepsTag entries) (hn : (entries.map Prod.fst).Nodup)
    (hr : assignEntries h strict classId target entries = .ok result) {key : String}
    (hkey : Key.isInternal key = true) :
    result.get? key = (Keyed.get? entries key).or (target.get? key) := by
  rcases get?_assignEntries_internal hn hr hkey with hfound | ⟨rfl, hnone, -⟩
  · exact hfound
  · cases hgiven : Keyed.get? entries Document.classKey with
    | none =>
      rw [hgiven, Option.none_or, ← Document.tag?, ht] at hnone
      cases hnone
    | some value =>
      obtain ⟨given, rfl⟩ : ∃ given, value = .string given :=
        hk _ (Keyed.mem_of_get? hgiven) rfl
      rw [hgiven] at hnone
      cases hnone

/-- Under any other key stands what an entry writes there, or what the target had. -/
theorem get?_assignEntries_cases
    (hr : assignEntries h strict classId target entries = .ok result) {key : String} {value : Value}
    (hkey : Key.isInternal key = false) (hv : result.get? key = some value) :
    target.get? key = some value ∨ ∃ e ∈ entries, Writes h strict classId e (key, value) := by
  induction entries generalizing target with
  | nil =>
    rw [assignEntries] at hr
    cases hr
    exact .inl hv
  | cons e rest ih =>
    obtain ⟨k, v⟩ := e
    have hclass : key ≠ Document.classKey :=
      (Key.ne_of_isInternal Document.isInternal_classKey hkey).symm
    have hlater (hw : ∃ e ∈ rest, Writes h strict classId e (key, value)) :
        ∃ e ∈ (k, v) :: rest, Writes h strict classId e (key, value) :=
      hw.imp fun e he => ⟨List.mem_cons_of_mem _ he.1, he.2⟩
    rcases assignEntries_cons_eq_ok hr with
      ⟨hint, hnext⟩ | ⟨attr, typed, tagged, hint, hattr, htyped, htag, hnext⟩
    · have hk : key ≠ k := (Key.ne_of_isInternal hint hkey).symm
      have hcases := ih hnext
      rw [Keyed.get?_insert_of_ne target v hk] at hcases
      exact hcases.imp_right hlater
    · have hkept : tagged.get? key = target.get? key := by
        rcases htag with rfl | ⟨name, owner, -, htag⟩
        · rfl
        · rcases withTag_eq_ok htag with ⟨tag, -, rfl⟩ | ⟨base, -, -, rfl⟩
          · rfl
          · exact Keyed.get?_insert_of_ne target _ hclass
      rcases ih hnext with htarget | hw
      · rw [Keyed.get?_insert] at htarget
        split at htarget
        · next hwire =>
          cases htarget
          subst hwire
          exact .inr ⟨(k, v), List.mem_cons_self, .typed hint hattr htyped⟩
        · rw [hkept] at htarget
          exact .inl htarget
      · exact .inr (hlater hw)

/-! ## Assignments -/

/-- What an assignment leaves under the key of an attribute is written by an entry, or it was
there. -/
theorem get?_assign_cases {values : Layout}
    (ha : assign h strict classId target values = .ok result) {key : String} {value : Value}
    (hkey : Key.isInternal key = false) (hv : result.get? key = some value) :
    target.get? key = some value ∨ ∃ e ∈ values, Writes h strict classId e (key, value) := by
  rw [assign] at ha
  cases ht : withTag h classId target with
  | error fault =>
    rw [ht] at ha
    cases ha
  | ok tagged =>
    simp only [ht] at ha
    refine (get?_assignEntries_cases ha hkey hv).imp_left fun hkept => ?_
    rcases withTag_eq_ok ht with ⟨tag, -, rfl⟩ | ⟨base, -, -, rfl⟩
    · exact hkept
    · have hne := (Key.ne_of_isInternal Document.isInternal_classKey hkey).symm
      rwa [Keyed.get?_insert_of_ne _ _ hne] at hkept

end TypedDocs.Assignment
