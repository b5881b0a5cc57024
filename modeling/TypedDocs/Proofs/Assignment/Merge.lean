import TypedDocs.Proofs.Assignment.Frame
import TypedDocs.Proofs.Assignment.Shape
import TypedDocs.Proofs.Value.Order

/-!
# Assignments one after the other

Into a layout that names its class every entry writes what it writes into any other.  So an
assignment fails exactly at the first entry that writes nothing, and what it has written until then
are the entries before it.  Of the entries that are stored under one key the last one counts, which
has the greatest key.

    Writable … e for all e ∈ values → ∃ result, assign … target values = .ok result ∧
      Overlays h strict classId target values result                          (assign_of_writable)
    Overlays … t v₁ m → Overlays … m v₂ r → StoredApart h classId v₁ v₂ →
      Joins h classId v₁ v₂ u → Overlays … t u r                                  (Overlays.trans)
-/

namespace TypedDocs.Assignment

/-! ## Definitions -/

/-- Values in order of their keys that do not name a class. -/
structure Classless (values : Layout) : Prop where
  sorted : Keyed.Sorted values
  unnamed : values.get? Document.classKey = none

/-- The entry writes something. -/
def Writable (h : Hierarchy) (strict : Bool) (classId : String) (e : String × Value) : Prop :=
  ∃ w, Writes h strict classId e w

/-- Of the entries that are stored under a key, this one has the greatest key. -/
structure LastUnder (h : Hierarchy) (classId : String) (entries : List (String × Value))
    (key : String) (e : String × Value) : Prop where
  mem : e ∈ entries
  stored : h.storedKey? classId e.1 = some key
  last : ∀ other ∈ entries, h.storedKey? classId other.1 = some key → other.1 ≤ e.1

/-- A layout is a target with entries written over it: under a key stands what the last entry that
is stored there writes, and where none is stored what the target has. -/
structure Overlays (h : Hierarchy) (strict : Bool) (classId : String) (target : Layout)
    (entries : List (String × Value)) (result : Layout) : Prop where
  written : ∀ key e, LastUnder h classId entries key e →
    ∃ value, Writes h strict classId e (key, value) ∧ result.get? key = some value
  kept : ∀ key, Spares h classId entries key → result.get? key = target.get? key

/-- No entry of the first values is stored under the same key as one of the second. -/
def StoredApart (h : Hierarchy) (classId : String) (v₁ v₂ : List (String × Value)) : Prop :=
  ∀ e ∈ v₁, ∀ key, h.storedKey? classId e.1 = some key → Spares h classId v₂ key

/-- Values have the entries of two others, and all of them that are stored anywhere. -/
structure Joins (h : Hierarchy) (classId : String) (v₁ v₂ u : List (String × Value)) : Prop where
  source : ∀ e ∈ u, e ∈ v₁ ∨ e ∈ v₂
  stored : ∀ e, e ∈ v₁ ∨ e ∈ v₂ → ∀ key, h.storedKey? classId e.1 = some key → e ∈ u
  keyed : ∀ e, e ∈ v₁ ∨ e ∈ v₂ → ∃ value, (e.1, value) ∈ u

variable {h : Hierarchy} {strict : Bool} {classId tag key : String}
  {target target' result result' mid : Layout} {e w w' : String × Value}
  {entries before rest writes v₁ v₂ u : List (String × Value)}

/-! ## One entry -/

theorem Writes.storedKey?_eq (hw : Writes h strict classId e w) :
    h.storedKey? classId e.1 = some w.1 := by
  rw [Hierarchy.storedKey?]
  cases hw with
  | internal hk => rw [if_pos hk]
  | typed hk hattr _ =>
    rw [hk, if_neg (by decide), hattr]
    rfl

theorem Writes.unique (hw : Writes h strict classId e w) (hw' : Writes h strict classId e w') :
    w' = w := by
  cases hw with
  | internal hk => exact hw'.eq_of_isInternal hk
  | typed hk hattr htyped =>
    cases hw' with
    | internal hk' =>
      rw [hk] at hk'
      cases hk'
    | typed _ hattr' htyped' =>
      rw [hattr] at hattr'
      cases hattr'
      rw [htyped] at htyped'
      cases htyped'
      rfl

/-- A first entry that is no internal one is stored as its attribute, or refused. -/
theorem assignEntries_cons {value : Value} (hk : Key.isInternal key = false)
    (ht : Document.tag? target = some tag) :
    assignEntries h strict classId target ((key, value) :: rest) =
      match h.resolveKey classId key with
      | .error fault => .error ⟨fault, target⟩
      | .ok attr =>
        match typedValue h strict attr.name attr.type value with
        | .error fault => .error ⟨fault, target⟩
        | .ok typed => assignEntries h strict classId (target.insert attr.wire typed) rest := by
  rw [assignEntries, hk, if_neg (by decide), Hierarchy.resolveKey, readKey]
  cases Key.parse key with
  | plain name => rfl
  | qualified name mixin =>
    cases hres : h.resolve mixin name with
    | error fault => simp [withTag_of_tag? ht, hres]
    | ok attr =>
      cases hv : typedValue h strict attr.name attr.type value <;>
        simp [withTag_of_tag? ht, hres, hv]

theorem assignEntries_cons_of_writes (ht : Document.tag? target = some tag)
    (hw : Writes h strict classId e w) :
    assignEntries h strict classId target (e :: rest) =
      assignEntries h strict classId (target.insert w.1 w.2) rest := by
  cases hw with
  | internal hk => exact assignEntries_internal_cons hk _ rest
  | typed hk hattr htyped => simp only [assignEntries_cons hk ht, hattr, htyped]

/-- An entry that writes nothing is refused for the same fault whatever the target. -/
theorem exists_fault_of_not_writable (hw : ¬Writable h strict classId e)
    (rest : List (String × Value)) :
    ∃ fault, ∀ target tag, Document.tag? target = some tag →
      assignEntries h strict classId target (e :: rest) = .error ⟨fault, target⟩ := by
  obtain ⟨key, value⟩ := e
  have hk : Key.isInternal key = false := by
    by_contra hk
    rw [Bool.not_eq_false] at hk
    exact hw ⟨(key, value), .internal hk⟩
  cases hattr : h.resolveKey classId key with
  | error fault =>
    refine ⟨fault, fun target tag ht => ?_⟩
    simp only [assignEntries_cons hk ht, hattr]
  | ok attr =>
    cases htyped : typedValue h strict attr.name attr.type value with
    | error fault =>
      refine ⟨fault, fun target tag ht => ?_⟩
      simp only [assignEntries_cons hk ht, hattr, htyped]
    | ok typed => exact absurd ⟨(attr.wire, typed), .typed hk hattr htyped⟩ hw

/-! ## Entries up to a place -/

theorem Writes.key_ne (hw : Writes h strict classId e w) (he : e.1 ≠ Document.classKey) :
    w.1 ≠ Document.classKey := by
  cases hk : Key.isInternal e.1 with
  | true =>
    rw [hw.eq_of_isInternal hk]
    exact he
  | false =>
    rw [← hw.isInternal_eq] at hk
    exact (Key.ne_of_isInternal Document.isInternal_classKey hk).symm

/-- Entries that do not name a class leave the one of the target. -/
theorem tag?_overlay_of_writes (hn : ∀ e ∈ entries, e.1 ≠ Document.classKey)
    (hws : List.Forall₂ (Writes h strict classId) entries writes) :
    Document.tag? (target.overlay writes) = Document.tag? target := by
  induction hws generalizing target with
  | nil => rfl
  | @cons e w rest writes hw _ ih =>
    obtain ⟨hfirst, hrest⟩ := List.forall_mem_cons.1 hn
    calc Document.tag? (target.overlay (w :: writes))
        = Document.tag? ((target.insert w.1 w.2).overlay writes) := rfl
      _ = Document.tag? (target.insert w.1 w.2) := ih hrest
      _ = Document.tag? target := tag?_insert_of_ne w.2 (hw.key_ne hfirst)

/-- Entries that write are written before the next one is looked at. -/
theorem assignEntries_append (ht : Document.tag? target = some tag)
    (hn : ∀ e ∈ before, e.1 ≠ Document.classKey)
    (hws : List.Forall₂ (Writes h strict classId) before writes) :
    assignEntries h strict classId target (before ++ rest) =
      assignEntries h strict classId (target.overlay writes) rest := by
  induction hws generalizing target with
  | nil => rfl
  | @cons e w tail writes hw _ ih =>
    obtain ⟨hfirst, hrest⟩ := List.forall_mem_cons.1 hn
    have htag : Document.tag? (target.insert w.1 w.2) = some tag := by
      rw [tag?_insert_of_ne w.2 (hw.key_ne hfirst), ht]
    rw [List.cons_append, assignEntries_cons_of_writes ht hw, ih htag hrest]
    rfl

theorem exists_writes (hw : ∀ e ∈ entries, Writable h strict classId e) :
    ∃ writes, List.Forall₂ (Writes h strict classId) entries writes := by
  induction entries with
  | nil => exact ⟨[], .nil⟩
  | cons e rest ih =>
    obtain ⟨⟨w, hfirst⟩, hrest⟩ := List.forall_mem_cons.1 hw
    obtain ⟨writes, hws⟩ := ih hrest
    exact ⟨w :: writes, .cons hfirst hws⟩

/-- All entries write, or there is a first one that does not. -/
theorem writable_or_split (entries : List (String × Value)) :
    (∀ e ∈ entries, Writable h strict classId e) ∨
      ∃ before e after, entries = before ++ e :: after ∧
        (∀ e' ∈ before, Writable h strict classId e') ∧ ¬Writable h strict classId e := by
  induction entries with
  | nil => exact .inl (by simp)
  | cons e rest ih =>
    by_cases hw : Writable h strict classId e
    · rcases ih with hall | ⟨before, e', after, rfl, hbefore, hnot⟩
      · exact .inl (List.forall_mem_cons.2 ⟨hw, hall⟩)
      · exact .inr ⟨e :: before, e', after, rfl, List.forall_mem_cons.2 ⟨hw, hbefore⟩, hnot⟩
    · exact .inr ⟨[], e, rest, rfl, by simp, hw⟩

/-! ## Overlays -/

theorem Overlays.cons (hw : Writes h strict classId e w) (hgreater : ∀ other ∈ rest, e.1 < other.1)
    (hr : Overlays h strict classId (target.insert w.1 w.2) rest result) :
    Overlays h strict classId target (e :: rest) result := by
  constructor
  · intro key last hl
    rcases List.mem_cons.1 hl.mem with rfl | hmem
    · have hkey : w.1 = key := Option.some.inj (hw.storedKey?_eq.symm.trans hl.stored)
      subst hkey
      have hspares : Spares h classId rest w.1 := by
        intro other hother hstored
        have hle := hl.last other (List.mem_cons_of_mem last hother) hstored
        exact absurd (hgreater other hother) (String.not_lt.2 hle)
      exact ⟨w.2, hw, by rw [hr.kept w.1 hspares, Keyed.get?_insert_self]⟩
    · exact hr.written key last ⟨hmem, hl.stored, fun other hother =>
        hl.last other (List.mem_cons_of_mem e hother)⟩
  · intro key hspares
    obtain ⟨hfirst, hrest⟩ := List.forall_mem_cons.1 hspares
    have hne : key ≠ w.1 := by
      intro he
      exact hfirst (he ▸ hw.storedKey?_eq)
    rw [hr.kept key hrest, Keyed.get?_insert_of_ne _ _ hne]

/-- Writing entries in order of their keys is writing them over the target. -/
theorem overlays_overlay (hs : Keyed.Sorted entries)
    (hws : List.Forall₂ (Writes h strict classId) entries writes) :
    Overlays h strict classId target entries (target.overlay writes) := by
  induction hws generalizing target with
  | nil =>
    constructor
    · intro key e he
      cases he.mem
    · intro key _
      rfl
  | @cons e w rest writes hw _ ih =>
    have hgreater : ∀ other ∈ rest, e.1 < other.1 := fun _ => List.rel_of_pairwise_cons hs
    exact Overlays.cons hw hgreater (ih (List.Pairwise.of_cons hs))

/-- Where entries are stored under a key, there is a last one. -/
theorem spares_or_exists_last (hs : Keyed.Sorted entries) (key : String) :
    Spares h classId entries key ∨ ∃ e, LastUnder h classId entries key e := by
  induction entries with
  | nil => exact .inl (by simp [Spares])
  | cons e rest ih =>
    have hgreater : ∀ other ∈ rest, e.1 < other.1 := fun _ => List.rel_of_pairwise_cons hs
    rcases ih (List.Pairwise.of_cons hs) with hspares | ⟨last, hl⟩
    · by_cases hstored : h.storedKey? classId e.1 = some key
      · refine .inr ⟨e, List.mem_cons_self, hstored, ?_⟩
        intro other hother hother'
        rcases List.mem_cons.1 hother with rfl | hother
        · exact String.le_refl _
        · exact absurd hother' (hspares other hother)
      · exact .inl (List.forall_mem_cons.2 ⟨hstored, hspares⟩)
    · refine .inr ⟨last, List.mem_cons_of_mem e hl.mem, hl.stored, ?_⟩
      intro other hother hstored
      rcases List.mem_cons.1 hother with rfl | hother
      · exact String.not_lt.1 (String.lt_asymm (hgreater last hl.mem))
      · exact hl.last other hother hstored

/-- What entries leave is fixed where they are stored, and is what was there elsewhere. -/
theorem Overlays.get?_eq (hs : Keyed.Sorted entries)
    (hr : Overlays h strict classId target entries result)
    (hr' : Overlays h strict classId target' entries result')
    (ht : ∀ key, Spares h classId entries key → target'.get? key = target.get? key) (key : String) :
    result'.get? key = result.get? key := by
  rcases spares_or_exists_last hs key with hspares | ⟨e, he⟩
  · rw [hr.kept key hspares, hr'.kept key hspares, ht key hspares]
  · obtain ⟨value, hw, hvalue⟩ := hr.written key e he
    obtain ⟨value', hw', hvalue'⟩ := hr'.written key e he
    cases hw.unique hw'
    rw [hvalue, hvalue']

/-! ## Joined values -/

theorem StoredApart.symm (ha : StoredApart h classId v₁ v₂) : StoredApart h classId v₂ v₁ := by
  intro e he key hstored other hother hstored'
  exact ha other hother key hstored' e he hstored

theorem Joins.symm (hj : Joins h classId v₁ v₂ u) : Joins h classId v₂ v₁ u where
  source := fun e he => (hj.source e he).symm
  stored := fun e he => hj.stored e he.symm
  keyed := fun e he => hj.keyed e he.symm

/-- Values that are stored apart are joined by writing the second over the first. -/
theorem joins_overlay {v₁ v₂ : Layout} (hs₁ : Keyed.Sorted v₁) (hs₂ : Keyed.Sorted v₂)
    (ha : StoredApart h classId v₁ v₂) : Joins h classId v₁ v₂ (v₁.overlay v₂) := by
  have hget := Keyed.get?_overlay hs₂.nodup v₁
  have hs := hs₁.overlay v₂
  have hsecond {e : String × Value} (he : e ∈ v₂) : e ∈ Keyed.overlay v₁ v₂ := by
    apply hs.get?_eq_some_iff.1
    rw [hget, hs₂.get?_eq_some_iff.2 he, Option.some_or]
  have hfirst {e : String × Value} (he : e ∈ v₁) (hnone : Keyed.get? v₂ e.1 = none) :
      e ∈ Keyed.overlay v₁ v₂ := by
    apply hs.get?_eq_some_iff.1
    rw [hget, hnone, Option.none_or, hs₁.get?_eq_some_iff.2 he]
  constructor
  · intro e he
    exact Keyed.mem_overlay he
  · intro e he key hstored
    rcases he with he | he
    · refine hfirst he (Keyed.get?_eq_none_iff.2 ?_)
      intro hm
      obtain ⟨other, hother, hkey⟩ := List.mem_map.1 hm
      exact ha e he key hstored other hother (hkey ▸ hstored)
    · exact hsecond he
  · intro e he
    rcases he with he | he
    · cases hv : Keyed.get? v₂ e.1 with
      | none => exact ⟨e.2, hfirst he hv⟩
      | some value => exact ⟨value, hsecond (Keyed.mem_of_get? hv)⟩
    · exact ⟨e.2, hsecond he⟩

/-- An entry that writes is stored. -/
theorem Joins.forall_writable_iff (hj : Joins h classId v₁ v₂ u) :
    (∀ e ∈ u, Writable h strict classId e) ↔
      (∀ e ∈ v₁, Writable h strict classId e) ∧ ∀ e ∈ v₂, Writable h strict classId e := by
  constructor
  · intro hu
    -- Whether an entry is stored depends on its key, and every key is one of the joined values.
    have hall (e : String × Value) (he : e ∈ v₁ ∨ e ∈ v₂) : Writable h strict classId e := by
      obtain ⟨value, hvalue⟩ := hj.keyed e he
      obtain ⟨w, hw⟩ := hu (e.1, value) hvalue
      exact hu e (hj.stored e he w.1 hw.storedKey?_eq)
    exact ⟨fun e he => hall e (.inl he), fun e he => hall e (.inr he)⟩
  · rintro ⟨h₁, h₂⟩ e he
    rcases hj.source e he with he | he
    · exact h₁ e he
    · exact h₂ e he

/-- Writing values over what others have been written over is writing the joined ones, if they are
stored apart. -/
theorem Overlays.trans (h₁ : Overlays h strict classId target v₁ mid)
    (h₂ : Overlays h strict classId mid v₂ result) (ha : StoredApart h classId v₁ v₂)
    (hj : Joins h classId v₁ v₂ u) : Overlays h strict classId target u result := by
  have hspares {key : String} (hs : Spares h classId u key) {v : List (String × Value)}
      (hv : ∀ e ∈ v, e ∈ v₁ ∨ e ∈ v₂) : Spares h classId v key := by
    intro e he hstored
    exact hs e (hj.stored e (hv e he) key hstored) hstored
  constructor
  · intro key e hl
    rcases hj.source e hl.mem with he | he
    · have hl₁ : LastUnder h classId v₁ key e := ⟨he, hl.stored, fun other hother hstored =>
        hl.last other (hj.stored other (.inl hother) key hstored) hstored⟩
      obtain ⟨value, hw, hvalue⟩ := h₁.written key e hl₁
      exact ⟨value, hw, by rw [h₂.kept key (ha e he key hl.stored), hvalue]⟩
    · exact h₂.written key e ⟨he, hl.stored, fun other hother hstored =>
        hl.last other (hj.stored other (.inr hother) key hstored) hstored⟩
  · intro key hs
    rw [h₂.kept key (hspares hs fun e he => .inr he), h₁.kept key (hspares hs fun e he => .inl he)]

/-! ## Assignments -/

theorem assign_of_tag? (ht : Document.tag? target = some tag) (values : Layout) :
    assign h strict classId target values = assignEntries h strict classId target values := by
  rw [assign, withTag_of_tag? ht]

theorem Classless.key_ne {values : Layout} (hv : Classless values) :
    ∀ e ∈ values, e.1 ≠ Document.classKey := by
  intro e he
  exact Keyed.ne_of_get?_eq_none hv.unnamed he

theorem Classless.of_joins {v₁ v₂ u : Layout} (hv₁ : Classless v₁) (hv₂ : Classless v₂)
    (hs : Keyed.Sorted u) (hj : Joins h classId v₁ v₂ u) : Classless u where
  sorted := hs
  unnamed := by
    rw [Keyed.get?_eq_none_iff]
    intro hm
    obtain ⟨e, he, hk⟩ := List.mem_map.1 hm
    rcases hj.source e he with he | he
    · exact hv₁.key_ne e he hk
    · exact hv₂.key_ne e he hk

/-- Entries that all write are assigned. -/
theorem assign_of_writable {values : Layout} (hs : Keyed.Sorted target)
    (ht : Document.tag? target = some tag) (hv : Classless values)
    (hw : ∀ e ∈ values, Writable h strict classId e) :
    ∃ result, assign h strict classId target values = .ok result ∧ Keyed.Sorted result ∧
      Document.tag? result = some tag ∧ Overlays h strict classId target values result := by
  obtain ⟨writes, hws⟩ := exists_writes hw
  refine ⟨target.overlay writes, ?_, hs.overlay writes, ?_, overlays_overlay hv.sorted hws⟩
  · rw [assign_of_tag? ht, ← List.append_nil values, assignEntries_append ht hv.key_ne hws]
    rfl
  · rw [tag?_overlay_of_writes hv.key_ne hws, ht]

/-- The first entry that does not write is where an assignment fails, for the same fault whatever
the target. -/
theorem exists_fault_of_split {values after : Layout} (hv : Classless values)
    (hsplit : values = before ++ e :: after)
    (hw : ∀ e' ∈ before, Writable h strict classId e') (hnot : ¬Writable h strict classId e) :
    ∃ fault, ∀ target tag, Keyed.Sorted target → Document.tag? target = some tag →
      ∃ written, assign h strict classId target values = .error ⟨fault, written⟩ ∧
        Keyed.Sorted written ∧ Document.tag? written = some tag ∧
        Overlays h strict classId target before written := by
  obtain ⟨fault, hfault⟩ := exists_fault_of_not_writable hnot after
  obtain ⟨writes, hws⟩ := exists_writes hw
  have hbefore : Keyed.Sorted before := (List.pairwise_append.1 (hsplit ▸ hv.sorted)).1
  have hnBefore : ∀ e' ∈ before, e'.1 ≠ Document.classKey := by
    intro e' he'
    exact hv.key_ne e' (hsplit ▸ List.mem_append_left _ he')
  refine ⟨fault, fun target tag hs ht => ?_⟩
  have htag : Document.tag? (target.overlay writes) = some tag := by
    rw [tag?_overlay_of_writes hnBefore hws, ht]
  refine ⟨target.overlay writes, ?_, hs.overlay writes, htag, overlays_overlay hbefore hws⟩
  rw [assign_of_tag? ht, hsplit, assignEntries_append ht hnBefore hws]
  exact hfault _ tag htag

theorem Overlays.eq_self (hs : Keyed.Sorted entries) (hm : Keyed.Sorted mid)
    (hsr : Keyed.Sorted result) (hr : Overlays h strict classId target entries mid)
    (hr' : Overlays h strict classId mid entries result) : result = mid :=
  hsr.eq_of_get? hm (hr.get?_eq hs hr' hr.kept)

theorem exists_assign_iff {values : Layout} (hs : Keyed.Sorted target)
    (ht : Document.tag? target = some tag) (hv : Classless values) :
    (∃ result, assign h strict classId target values = .ok result) ↔
      ∀ e ∈ values, Writable h strict classId e := by
  constructor
  · rintro ⟨result, ha⟩
    rcases writable_or_split (h := h) values with hw | ⟨before, e, after, hsplit, hw, hnot⟩
    · exact hw
    · obtain ⟨fault, hfault⟩ := exists_fault_of_split hv hsplit hw hnot
      obtain ⟨written, hfailed, -⟩ := hfault target tag hs ht
      rw [ha] at hfailed
      cases hfailed
  · intro hw
    obtain ⟨result, ha, -⟩ := assign_of_writable hs ht hv hw
    exact ⟨result, ha⟩

theorem overlays_of_assign {values : Layout} (hs : Keyed.Sorted target)
    (ht : Document.tag? target = some tag) (hv : Classless values)
    (ha : assign h strict classId target values = .ok result) :
    Keyed.Sorted result ∧ Document.tag? result = some tag ∧
      Overlays h strict classId target values result := by
  have hw := (exists_assign_iff hs ht hv).1 ⟨result, ha⟩
  obtain ⟨result', ha', hresult⟩ := assign_of_writable hs ht hv hw
  rw [ha] at ha'
  cases ha'
  exact hresult

/-- Assigning values and then others is assigning the joined ones, if they are stored apart. -/
theorem exists_assign_assign_iff {v₁ v₂ u : Layout} (hs : Keyed.Sorted target)
    (ht : Document.tag? target = some tag) (hv₁ : Classless v₁) (hv₂ : Classless v₂)
    (hu : Classless u) (ha : StoredApart h classId v₁ v₂) (hj : Joins h classId v₁ v₂ u) :
    (∃ mid, assign h strict classId target v₁ = .ok mid ∧
        assign h strict classId mid v₂ = .ok result) ↔
      assign h strict classId target u = .ok result := by
  -- Both leave what is fixed by the target and the joined values.
  have hsame {mid result joined : Layout} (h₁ : assign h strict classId target v₁ = .ok mid)
      (h₂ : assign h strict classId mid v₂ = .ok result)
      (hu' : assign h strict classId target u = .ok joined) : joined = result := by
    obtain ⟨hsm, htm, ho₁⟩ := overlays_of_assign hs ht hv₁ h₁
    obtain ⟨hsr, -, ho₂⟩ := overlays_of_assign hsm htm hv₂ h₂
    obtain ⟨hsj, -, ho⟩ := overlays_of_assign hs ht hu hu'
    exact hsj.eq_of_get? hsr ((ho₁.trans ho₂ ha hj).get?_eq hu.sorted ho fun _ _ => rfl)
  constructor
  · rintro ⟨mid, h₁, h₂⟩
    obtain ⟨hsm, htm, -⟩ := overlays_of_assign hs ht hv₁ h₁
    have hw := hj.forall_writable_iff.2 ⟨(exists_assign_iff hs ht hv₁).1 ⟨mid, h₁⟩,
      (exists_assign_iff hsm htm hv₂).1 ⟨result, h₂⟩⟩
    obtain ⟨joined, hu'⟩ := (exists_assign_iff hs ht hu).2 hw
    rw [hu', hsame h₁ h₂ hu']
  · intro hu'
    obtain ⟨hw₁, hw₂⟩ := hj.forall_writable_iff.1 ((exists_assign_iff hs ht hu).1 ⟨result, hu'⟩)
    obtain ⟨mid, h₁⟩ := (exists_assign_iff hs ht hv₁).2 hw₁
    obtain ⟨hsm, htm, -⟩ := overlays_of_assign hs ht hv₁ h₁
    obtain ⟨both, h₂⟩ := (exists_assign_iff hsm htm hv₂).2 hw₂
    cases hsame h₁ h₂ hu'
    exact ⟨mid, h₁, h₂⟩

/-! ## Main statement -/

/-- Into a layout that names its class, values that name none are assigned exactly when each of
their entries writes something.  Then the last entry that is stored under a key counts there, and
everything else stays; else the entries before the first that writes nothing have been written.
Either way a second assignment changes nothing more.  Values that are stored apart can be assigned
in either order or at once. -/
theorem assign_overlays (h : Hierarchy) (strict : Bool) (classId : String) {target : Layout}
    {tag : String} (hs : Keyed.Sorted target) (ht : Document.tag? target = some tag) :
    (∀ values, Classless values →
      ((∃ result, assign h strict classId target values = .ok result) ↔
        ∀ e ∈ values, Writable h strict classId e) ∧
      (∀ result, assign h strict classId target values = .ok result →
        Overlays h strict classId target values result ∧
        assign h strict classId result values = .ok result) ∧
      ∀ failure, assign h strict classId target values = .error failure →
        (∃ before e after, values = before ++ e :: after ∧
          (∀ e' ∈ before, Writable h strict classId e') ∧ ¬Writable h strict classId e ∧
          Overlays h strict classId target before failure.written) ∧
        assign h strict classId failure.written values = .error failure) ∧
    ∀ v₁ v₂, Classless v₁ → Classless v₂ → StoredApart h classId v₁ v₂ → ∀ result,
      ((∃ mid, assign h strict classId target v₁ = .ok mid ∧
          assign h strict classId mid v₂ = .ok result) ↔
        assign h strict classId target (v₁.overlay v₂) = .ok result) ∧
      ((∃ mid, assign h strict classId target v₂ = .ok mid ∧
          assign h strict classId mid v₁ = .ok result) ↔
        assign h strict classId target (v₁.overlay v₂) = .ok result) := by
  constructor
  · intro values hv
    refine ⟨exists_assign_iff hs ht hv, ?success, ?failure⟩
    case success =>
      intro result ha
      obtain ⟨hsr, htr, hoverlays⟩ := overlays_of_assign hs ht hv ha
      have hw := (exists_assign_iff hs ht hv).1 ⟨result, ha⟩
      obtain ⟨again, hagain, hsa, -, hoverlays'⟩ := assign_of_writable hsr htr hv hw
      rw [hoverlays.eq_self hv.sorted hsr hsa hoverlays'] at hagain
      exact ⟨hoverlays, hagain⟩
    case failure =>
      intro failure ha
      rcases writable_or_split (h := h) values with hw | ⟨before, e, after, hsplit, hw, hnot⟩
      · obtain ⟨result, ha', -⟩ := assign_of_writable hs ht hv hw
        rw [ha] at ha'
        cases ha'
      · obtain ⟨fault, hfault⟩ := exists_fault_of_split hv hsplit hw hnot
        obtain ⟨written, hfailed, hsw, htw, hoverlays⟩ := hfault target tag hs ht
        rw [ha] at hfailed
        cases hfailed
        obtain ⟨again, hagain, hsa, -, hoverlays'⟩ := hfault written tag hsw htw
        have hbefore : Keyed.Sorted before := (List.pairwise_append.1 (hsplit ▸ hv.sorted)).1
        rw [hoverlays.eq_self hbefore hsw hsa hoverlays'] at hagain
        exact ⟨⟨before, e, after, hsplit, hw, hnot, hoverlays⟩, hagain⟩
  · intro v₁ v₂ hv₁ hv₂ ha result
    have hj := joins_overlay hv₁.sorted hv₂.sorted ha
    have hu := hv₁.of_joins hv₂ (hv₁.sorted.overlay v₂) hj
    exact ⟨exists_assign_assign_iff hs ht hv₁ hv₂ hu ha hj,
      exists_assign_assign_iff hs ht hv₂ hv₁ hu ha.symm hj.symm⟩

/-- A task is given a name twice, by two keys that are stored as one, and an estimate. -/
theorem assign_overlays_task :
    Overlays .tasks true "Task" [("_class", .string "Task")]
        [("name", .string "draft"), ("name|Task", .string "print")]
        [("_class", .string "Task"), ("name", .string "print")] ∧
      (∃ failure, assign .tasks true "Task" [("_class", .string "Task")]
          [("labels", .string "x"), ("name", .string "draft")] = .error failure ∧
        assign .tasks true "Task" failure.written
          [("labels", .string "x"), ("name", .string "draft")] = .error failure) ∧
      ∃ mid, assign .tasks true "Task" [("_class", .string "Task")]
          [("hours|Estimate", .number (.integer 3))] = .ok mid ∧
        assign .tasks true "Task" mid [("name", .string "draft"), ("name|Task", .string "print")] =
          .ok [("_class", .string "Task"), ("hours|Estimate", .number (.integer 3)),
            ("name", .string "print")] := by
  have hs : Keyed.Sorted [("_class", Value.string "Task")] := by decide
  have ht : Document.tag? [("_class", .string "Task")] = some "Task" := rfl
  obtain ⟨hvalues, hjoint⟩ := assign_overlays .tasks true "Task" hs ht
  have hnames : Classless [("name", .string "draft"), ("name|Task", .string "print")] :=
    ⟨by decide, rfl⟩
  have hestimate : Classless [("hours|Estimate", .number (.integer 3))] := ⟨by decide, rfl⟩
  have hlabels : Classless [("labels", .string "x"), ("name", .string "draft")] := ⟨by decide, rfl⟩
  have hapart : StoredApart .tasks "Task"
      [("name", .string "draft"), ("name|Task", .string "print")]
      [("hours|Estimate", .number (.integer 3))] := by
    intro e he key hstored other hother
    have hname : Hierarchy.tasks.storedKey? "Task" e.1 = some "name" := by
      rcases List.mem_cons.1 he with rfl | he
      · rfl
      · rw [List.mem_singleton.1 he]
        rfl
    have hhours : Hierarchy.tasks.storedKey? "Task" other.1 = some "hours|Estimate" := by
      rw [List.mem_singleton.1 hother]
      rfl
    rw [hname] at hstored
    cases hstored
    rw [hhours]
    decide
  refine ⟨?_, ?_, ?_⟩
  · obtain ⟨-, hok, -⟩ := hvalues _ hnames
    exact (hok _ rfl).1
  · obtain ⟨-, -, herror⟩ := hvalues _ hlabels
    exact ⟨_, rfl, (herror _ rfl).2⟩
  · exact ((hjoint _ _ hnames hestimate hapart _).2).2 rfl

end TypedDocs.Assignment
