import TypedDocs.Proofs.Assignment.Collections
import TypedDocs.Proofs.Assignment.Overlay
import TypedDocs.Proofs.Query.Naming

/-!
# What the faults of an assignment name

An assignment fails by a key of the values, by the class of an embedded object, or by the form of a
value under the type of an attribute.  Its fault names keys and classes of the values, the
classifier that they are read for, and what the hierarchy names:

    o.named classId → (∀ n ∈ Value.fieldNames values, o.named n) →
      assign h strict classId target values = .error failure →
        failure.fault.Within h o                                     (within_of_assign)
-/

namespace TypedDocs.Assignment

/-! ## Definitions -/

/-- Under whatever type the value fails, the fault names the attribute, the class of the type, and
names of the value. -/
def FaultsWithin (h : Hierarchy) (strict : Bool) (o : Fault.Sources) (value : Value) : Prop :=
  ∀ (name : String) (type : AttributeType) (internal : Bool) (fault : Fault), o.named name →
    (∀ c, type.elementClass = some c → o.named c) → (∀ n ∈ value.names internal, o.named n) →
    typedValue h strict name type value = .error fault → fault.Within h o

variable {h : Hierarchy} {strict : Bool} {o : Fault.Sources} {fault : Fault} {classId : String}
  {target result : Layout} {entries : List (String × Value)}

/-! ## Lists -/

/-- Of a list nothing is made because nothing is made of one of its members. -/
theorem exists_of_map_eq_error {α β γ : Type} {make : α → Except Fault β} {list : List α}
    {made : Except Fault (List γ)} {f : List γ → Value}
    (hfirst : made = .error fault ↔ FirstFault make list fault) (hm : made.map f = .error fault) :
    ∃ a ∈ list, make a = .error fault := by
  cases made with
  | ok built => cases hm
  | error reason =>
    cases hm
    obtain ⟨before, a, after, rfl, -, ha⟩ := hfirst.1 rfl
    exact ⟨a, by simp, ha⟩

/-! ## The class -/

theorem within_of_withTag (hc : o.named classId) (ht : withTag h classId target = .error fault) :
    fault.Within h o := by
  rw [withTag] at ht
  cases htag : Document.tag? target with
  | some tag =>
    rw [htag] at ht
    cases ht
  | none =>
    rw [htag] at ht
    cases hb : h.concreteClass classId with
    | ok base =>
      rw [hb] at ht
      cases ht
    | error reason =>
      rw [hb] at ht
      cases ht
      exact Hierarchy.within_of_concreteClass hc hb

/-- What types an embedded object is the declared class or one that its fields name. -/
theorem named_typing {fields : Layout} (hc : o.named classId)
    (hn : ∀ n ∈ Value.fieldNames fields, o.named n) :
    o.named ((h.embeddedClass (some classId) fields).getD classId) := by
  cases he : h.embeddedClass (some classId) fields with
  | none => exact hc
  | some c =>
    rcases Hierarchy.embeddedClass_eq_some he with htag | hdeclared
    · exact hn c (Value.mem_fieldNames_of_tag? (by simpa using htag))
    · cases hdeclared
      exact hc

theorem within_of_startEmbedded {fields : Layout} (hc : o.named classId)
    (hn : ∀ n ∈ Value.fieldNames fields, o.named n)
    (hs : startEmbedded h classId fields = .error fault) : fault.Within h o := by
  rw [startEmbedded] at hs
  cases ht : withTag h ((h.embeddedClass (some classId) fields).getD classId) [] with
  | ok start =>
    simp only [ht] at hs
    cases hs
  | error reason =>
    simp only [ht] at hs
    cases hs
    exact within_of_withTag (named_typing hc hn) ht

/-! ## Entries -/

/-- Entries fail by a later one, or by the first: by the class of the mixin that its key names, by
the key, or by its value. -/
theorem assignEntries_cons_eq_error {key : String} {value : Value} {rest : List (String × Value)}
    {failure : AssignmentFailure}
    (hr : assignEntries h strict classId target ((key, value) :: rest) = .error failure) :
    (∃ written, assignEntries h strict classId written rest = .error failure) ∨
      (∃ name mixin, Key.parse key = .qualified name mixin ∧
        withTag h mixin target = .error failure.fault) ∨
      h.resolveKey classId key = .error failure.fault ∨
      ∃ attr, h.resolveKey classId key = .ok attr ∧
        typedValue h strict attr.name attr.type value = .error failure.fault := by
  rw [assignEntries] at hr
  split at hr
  · exact .inl ⟨_, hr⟩
  · rw [Hierarchy.resolveKey]
    cases hparse : Key.parse key with
    | plain name =>
      simp only [readKey, hparse] at hr ⊢
      split at hr
      · next hresolve =>
        cases hr
        exact .inr (.inr (.inl hresolve))
      · next attr hresolve =>
        split at hr
        · next htyped =>
          cases hr
          exact .inr (.inr (.inr ⟨attr, hresolve, htyped⟩))
        · exact .inl ⟨_, hr⟩
    | qualified name mixin =>
      simp only [readKey, hparse] at hr ⊢
      split at hr
      · next htag =>
        cases hr
        exact .inr (.inl ⟨name, mixin, rfl, htag⟩)
      · split at hr
        · next hresolve =>
          cases hr
          exact .inr (.inr (.inl hresolve))
        · next attr hresolve =>
          split at hr
          · next htyped =>
            cases hr
            exact .inr (.inr (.inr ⟨attr, hresolve, htyped⟩))
          · exact .inl ⟨_, hr⟩

theorem within_of_assignEntries (hh : ∀ n, h.Names n → o.named n) (hc : o.named classId)
    (hf : ∀ e ∈ entries, FaultsWithin h strict o e.2)
    (hn : ∀ n ∈ Value.fieldNames entries, o.named n) {failure : AssignmentFailure}
    (hr : assignEntries h strict classId target entries = .error failure) :
    failure.fault.Within h o := by
  induction entries generalizing target with
  | nil => cases hr
  | cons e rest ih =>
    obtain ⟨key, value⟩ := e
    obtain ⟨hvalue, hrest⟩ := List.forall_mem_cons.1 hf
    rw [Value.fieldNames, List.forall_mem_append, List.forall_mem_append] at hn
    obtain ⟨⟨hkey, hnames⟩, hothers⟩ := hn
    rcases assignEntries_cons_eq_error hr with
      ⟨written, hlater⟩ | ⟨name, mixin, hparse, htag⟩ | hresolve | ⟨attr, hresolve, htyped⟩
    · exact ih hrest hothers hlater
    · have hasks : Key.Asks classId key mixin name := .qualified hparse
      exact within_of_withTag (hasks.named hc hkey).1 htag
    · exact Hierarchy.within_of_resolveKey hc hkey hresolve
    · obtain ⟨owner, name, hattr⟩ := Hierarchy.exists_resolve_of_resolveKey hresolve
      have htype : ∀ c, attr.type.elementClass = some c → o.named c := fun c he =>
        hh c (.element (Hierarchy.declares_of_resolve hattr he))
      exact hvalue attr.name attr.type _ _ (hh _ (.of_resolve hattr)) htype hnames htyped

/-! ## Values -/

/-- An object is built of its fields, or of its entries when it is a bag. -/
theorem faultsWithin_object {fields : List (String × Value)} (hh : ∀ n, h.Names n → o.named n)
    (hf : ∀ e ∈ fields, FaultsWithin h strict o e.2) :
    FaultsWithin h strict o (.object fields) := by
  intro name type internal fault hname htype hn ht
  rw [Value.names] at hn
  unfold typedValue at ht
  split at ht
  · split at ht
    · cases ht
      exact List.forall_mem_singleton.2 hname
    · cases ht
  · next c =>
    have hc : o.named c := htype c rfl
    split at ht
    · next hstart =>
      cases ht
      exact within_of_startEmbedded hc hn hstart
    · next typing start hstart =>
      obtain ⟨rfl, -⟩ := startEmbedded_eq_ok hstart
      split at ht
      · next hentries =>
        cases ht
        exact within_of_assignEntries hh (named_typing hc hn) hf hn hentries
      · cases ht
  · next c =>
    obtain ⟨e, he, hfault⟩ := exists_of_map_eq_error embedEntries_eq_error_iff ht
    rw [embed_eq_typedValue name] at hfault
    have hnames : ∀ n ∈ e.2.names (Key.isInternal e.1), o.named n := fun n hmem =>
      hn n (Value.mem_fieldNames_iff.2 ⟨e, he, .inr hmem⟩)
    exact hf e he name (.instanceOf c) _ fault hname htype hnames hfault
  · cases ht

/-- An array is built of its items. -/
theorem faultsWithin_array {items : List Value}
    (hi : ∀ item ∈ items, FaultsWithin h strict o item) :
    FaultsWithin h strict o (.array items) := by
  intro name type internal fault hname htype hn ht
  rw [Value.names] at hn
  unfold typedValue at ht
  split at ht
  · next c =>
    obtain ⟨item, hmem, hfault⟩ := exists_of_map_eq_error embedItems_eq_error_iff ht
    rw [embed_eq_typedValue name] at hfault
    have hnames : ∀ n ∈ item.names internal, o.named n := fun n hin =>
      hn n (Value.mem_itemNames_iff.2 ⟨item, hmem, hin⟩)
    exact hi item hmem name (.instanceOf c) internal fault hname htype hnames hfault
  · cases ht

/-- Anything else is refused under the type of an array only. -/
theorem faultsWithin_leaf {value : Value} (ha : ∀ items, value ≠ .array items)
    (ho : ∀ fields, value ≠ .object fields) : FaultsWithin h strict o value := by
  intro name type internal fault hname htype hn ht
  unfold typedValue at ht
  split at ht
  · exact absurd rfl (ha _)
  · exact absurd rfl (ho _)
  · cases ht
  · split at ht
    · split at ht
      · cases ht
        exact List.forall_mem_singleton.2 hname
      · cases ht
    · cases ht

mutual

theorem faultsWithin (hh : ∀ n, h.Names n → o.named n) :
    ∀ (value : Value), FaultsWithin h strict o value
  | .array items => faultsWithin_array (faultsWithin_items hh items)
  | .object fields => faultsWithin_object hh (faultsWithin_fields hh fields)
  | .null | .bool _ | .number _ | .string _ => faultsWithin_leaf (by simp) (by simp)

theorem faultsWithin_items (hh : ∀ n, h.Names n → o.named n) :
    ∀ (items : List Value), ∀ item ∈ items, FaultsWithin h strict o item
  | [] => by simp
  | v :: vs => List.forall_mem_cons.2 ⟨faultsWithin hh v, faultsWithin_items hh vs⟩

theorem faultsWithin_fields (hh : ∀ n, h.Names n → o.named n) :
    ∀ (fields : List (String × Value)), ∀ e ∈ fields, FaultsWithin h strict o e.2
  | [] => by simp
  | (_, v) :: fs => List.forall_mem_cons.2 ⟨faultsWithin hh v, faultsWithin_fields hh fs⟩

end

/-! ## Assignments -/

theorem within_of_assign (hh : ∀ n, h.Names n → o.named n) (hc : o.named classId) {values : Layout}
    (hn : ∀ n ∈ Value.fieldNames values, o.named n) {failure : AssignmentFailure}
    (ha : assign h strict classId target values = .error failure) :
    failure.fault.Within h o := by
  rw [assign] at ha
  split at ha
  · next ht =>
    cases ha
    exact within_of_withTag hc ht
  · exact within_of_assignEntries hh hc (faultsWithin_fields hh values) hn ha

/-- Under an internal key other than that of the class stands what the target had or what an entry
gives. -/
theorem mem_of_get?_assignEntries {key : String} (hk : Key.isInternal key = true)
    (hne : key ≠ Document.classKey)
    (hr : assignEntries h strict classId target entries = .ok result) {value : Value}
    (hv : result.get? key = some value) :
    target.get? key = some value ∨ (key, value) ∈ entries := by
  induction entries generalizing target with
  | nil =>
    cases hr
    exact .inl hv
  | cons e rest ih =>
    obtain ⟨k, v⟩ := e
    rcases assignEntries_cons_eq_ok hr with
      ⟨-, hnext⟩ | ⟨attr, typed, tagged, -, hattr, -, htag, hnext⟩
    · rcases ih hnext with htarget | hrest
      · rw [Keyed.get?_insert] at htarget
        split at htarget
        · next he =>
          cases htarget
          subst he
          exact .inr List.mem_cons_self
        · exact .inl htarget
      · exact .inr (List.mem_cons_of_mem _ hrest)
    · have hwire : key ≠ attr.wire :=
        Key.ne_of_isInternal hk (Hierarchy.isInternal_wire_of_resolveKey hattr)
      refine (ih hnext).imp (fun htarget => ?_) (List.mem_cons_of_mem _)
      rw [Keyed.get?_insert_of_ne _ _ hwire] at htarget
      rcases htag with rfl | ⟨name, owner, -, htag⟩
      · exact htarget
      · rcases withTag_eq_ok htag with ⟨tag, -, rfl⟩ | ⟨base, -, -, rfl⟩
        · exact htarget
        · rwa [Keyed.get?_insert_of_ne _ _ hne] at htarget

end TypedDocs.Assignment
