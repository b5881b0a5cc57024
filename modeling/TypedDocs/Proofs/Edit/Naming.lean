import TypedDocs.Proofs.Assignment.Naming
import TypedDocs.Proofs.Edit.Identity
import TypedDocs.Proofs.Selector.Naming
import TypedDocs.Proofs.Selector.Trail

/-!
# What the faults of an edit name

An edit fails where its selector leads nowhere, by values that it does not write, by the assignment,
or because the place is not what it changes.  Its fault names keys and classes of the selector and
the values, classes that the document names, and what the hierarchy names; a search pattern that is
none is one of the selector's, and a flaw is that of the identity in the values:

    Position.Covered o (.root rootClass root) → s.Covered o → o.named s.lastKey →
      (∀ n ∈ Value.fieldNames values, o.named n) →
        (set h strict rootClass s values).FailsBy (Fault.Within h o) root
          when the flaws of `checkIdentity` are among the sources                    (failsBy_set)

and so for `push` and `pull`, which have no flaws.
-/

namespace TypedDocs

/-! ## Definitions -/

/-- Where the work fails on the root, it does so by such a fault. -/
def Editing.FailsBy {α : Type} (Known : Fault → Prop) (e : Editing α) (root : Layout) : Prop :=
  ∀ fault left, e root = .error fault left → Known fault

namespace Editing

variable {α β : Type} {Known : Fault → Prop} {root : Layout}

/-! ## Sequences -/

theorem FailsBy.bind {e : Editing α} {f : α → Editing β} (he : e.FailsBy Known root)
    (hf : ∀ a mid, e root = .ok a mid → (f a).FailsBy Known mid) :
    (e >>= f).FailsBy Known root := by
  intro fault left hb
  rw [bind_apply] at hb
  cases hr : e root with
  | ok a mid =>
    rw [hr] at hb
    exact hf a mid hr fault left hb
  | error reason mid =>
    rw [hr] at hb
    cases hb
    exact he fault left hr

theorem failsBy_throw {fault : Fault} (hk : Known fault) :
    FailsBy Known (throw fault : Editing α) root := by
  intro reason left ht
  cases ht
  exact hk

theorem failsBy_ofExcept {r : Except Fault α} (hr : ∀ fault, r = .error fault → Known fault) :
    FailsBy Known (ofExcept r) root := by
  intro fault left he
  cases r with
  | ok a => cases he
  | error reason =>
    cases he
    exact hr fault rfl

end Editing

namespace Edit

open Editing

variable {ρ : Type} [Pattern.Engine ρ]
variable {α : Type} {Known : Fault → Prop} {root : Layout} {path : Path} {key : String}

/-! ## Places of the root -/

theorem failsBy_reading {f : Layout → Except Fault α}
    (hf : ∀ fault, f root = .error fault → Known fault) : (reading f).FailsBy Known root :=
  failsBy_ofExcept hf

theorem failsBy_layoutAt (hk : Known .objectNotFound) : (layoutAt path).FailsBy Known root := by
  refine failsBy_reading fun fault he => ?_
  split at he
  · cases he
  · cases he
    exact hk

theorem failsBy_writeAt {new : Layout} (hk : Known .objectNotFound) :
    (writeAt path new).FailsBy Known root := by
  intro fault left he
  rw [writeAt_apply] at he
  split at he
  · cases he
  · cases he
    exact hk

theorem failsBy_append {item : Value} {refusal : Fault} (hk : Known .objectNotFound)
    (hr : Known refusal) : (append path key item refusal).FailsBy Known root := by
  have hslot : (slotValue path key).FailsBy Known root := by
    refine (failsBy_layoutAt hk).bind fun owner mid _ => ?_
    split
    · intro fault left he
      cases he
    · refine (failsBy_writeAt hk).bind fun _ _ _ => ?_
      intro fault left he
      cases he
  refine hslot.bind fun value mid _ => ?_
  split
  · exact (failsBy_layoutAt hk).bind fun _ _ _ => failsBy_writeAt hk
  · exact failsBy_throw hr

/-! ## Edits -/

variable {h : Hierarchy} {strict : Bool} {o : Fault.Sources} {rootClass : String} {s : Selector}
  {l : Location} {values : Layout}

theorem within_of_locate (hh : ∀ n, h.Names n → o.named n)
    (hc : Selector.Position.Covered o (.root rootClass root)) (hs : s.Covered o)
    {fault : Fault} (hl : s.locate h rootClass root = .error fault) :
    fault.Within h o :=
  Selector.within_of_locateFrom hh hc hs hl

theorem within_of_locateObject (hh : ∀ n, h.Names n → o.named n)
    (hc : Selector.Position.Covered o (.root rootClass root)) (hs : s.Covered o)
    {fault : Fault} (hl : locateObject h rootClass root s = .error fault) :
    fault.Within h o := by
  unfold locateObject at hl
  split at hl
  · cases hl
    exact List.forall_mem_nil _
  · exact within_of_locate hh hc hs hl

theorem within_of_checkIdentity (hc : o.named rootClass)
    (hv : ∀ n ∈ Value.fieldNames values, o.named n) {fault : Fault}
    (hflaw : ∀ flaw, fault = .invalidDocument flaw → o.flawed flaw)
    (hi : checkIdentity h rootClass path values = .error fault) : fault.Within h o := by
  have hfixed {key : String} (hk : values.contains key = true)
      (he : fault = .invalidDocument (.fixedKey key)) : fault.Within h o := by
    subst he
    obtain ⟨value, hvalue⟩ := Option.isSome_iff_exists.1 hk
    refine ⟨hflaw _ rfl, List.forall_mem_singleton.2 (hv key ?_)⟩
    exact Value.mem_fieldNames_iff.2 ⟨_, Keyed.mem_of_get? hvalue, .inl List.mem_cons_self⟩
  rw [checkIdentity] at hi
  cases hid : values.contains Document.idKey with
  | true =>
    simp only [hid, if_true, throw_eq_error, error_bind] at hi
    exact hfixed hid (Except.error.inj hi).symm
  | false =>
    cases hclass : values.contains Document.classKey with
    | true =>
      simp only [hid, hclass, Bool.false_eq_true, if_false, if_true, throw_eq_error,
        error_bind] at hi
      exact hfixed hclass (Except.error.inj hi).symm
    | false =>
      simp only [hid, hclass, Bool.false_eq_true, if_false] at hi
      split at hi
      · cases hi
      · next mixins hm =>
        split at hi
        · refine Hierarchy.within_of_checkMixins hc (fun n hn => hv n ?_) hflaw hi
          exact Value.mem_fieldNames_of_get? hm hn
        · cases hi
          exact ⟨hflaw _ rfl, List.forall_mem_nil _⟩

/-- Whether values have an identity that an edit may write does not depend on their payload, and of
the place only on whether it is the root. -/
theorem checkIdentity_redact {place : Path} (hp : path.isEmpty = place.isEmpty) :
    checkIdentity h rootClass place (Value.redactFields values) =
      checkIdentity h rootClass path values := by
  simp only [checkIdentity, Value.contains_redactFields, Value.get?_redactFields,
    Document.isInternal_mixinsKey]
  cases values.get? Document.mixinsKey with
  | none => rfl
  | some mixins => simp only [Option.map_some, Hierarchy.checkMixins_redact, hp]

theorem failsBy_set (hh : ∀ n, h.Names n → o.named n)
    (hc : Selector.Position.Covered o (.root rootClass root)) (hs : s.Covered o)
    (hlast : o.named s.lastKey) (hv : ∀ n ∈ Value.fieldNames values, o.named n)
    (hflaw : ∀ l flaw, locateObject h rootClass root s = .ok l →
      checkIdentity h rootClass l.target values = .error (.invalidDocument flaw) →
        o.flawed flaw) :
    (set h strict rootClass s values).FailsBy (Fault.Within h o) root := by
  refine (failsBy_reading fun _ hl => within_of_locateObject hh hc hs hl).bind fun l mid hl => ?_
  have hl := (ofExcept_eq_ok_iff.1 hl).1
  have htarget := (Selector.named_of_locateFrom hh hc (locate_of_locateObject hl)).1
  cases hclass : l.targetClass with
  | none => exact failsBy_throw (List.forall_mem_singleton.2 hlast)
  | some classId =>
    have hlost : Fault.Within h o .objectNotFound := List.forall_mem_nil _
    have hidentity (fault : Fault) (hi : checkIdentity h rootClass l.target values = .error fault) :
        fault.Within h o := within_of_checkIdentity hc.named hv
      (fun flaw he => hflaw l flaw hl (he ▸ hi)) hi
    refine (failsBy_ofExcept hidentity).bind fun _ _ _ => ?_
    refine (failsBy_layoutAt hlost).bind fun scratch _ _ => ?_
    split
    · next ha =>
      exact failsBy_throw (Assignment.within_of_assign hh (htarget classId hclass) hv ha)
    · exact failsBy_writeAt hlost

theorem failsBy_push (hh : ∀ n, h.Names n → o.named n)
    (hc : Selector.Position.Covered o (.root rootClass root)) (hs : s.Covered o)
    (hlast : o.named s.lastKey) {value : Value} (hv : ∀ n ∈ value.names false, o.named n) :
    (push h strict rootClass s value).FailsBy (Fault.Within h o) root := by
  have hrefusal : Fault.Within h o (.wrongType s.lastKey .array) :=
    List.forall_mem_singleton.2 hlast
  refine (failsBy_reading fun _ hl => within_of_locate hh hc hs hl).bind fun l mid hl => ?_
  have hattr := (Selector.named_of_locateFrom hh hc (ofExcept_eq_ok_iff.1 hl).1).2
  cases ha : l.attribute? with
  | none => exact failsBy_throw hrefusal
  | some attr =>
    obtain ⟨classId, key, hresolve⟩ := hattr attr ha
    obtain ⟨owner, name, hresolve⟩ := Hierarchy.exists_resolve_of_resolveKey hresolve
    cases ht : attr.type with
    | arrayOf element =>
      have helement : ∀ c, element.elementClass = some c → o.named c := fun c he =>
        hh c (.element (Hierarchy.declares_of_resolve hresolve
          (by rw [ResolvedAttribute.elementClass, ht]; exact he)))
      simp only [ht]
      refine (failsBy_ofExcept fun fault hf => ?_).bind fun item _ _ =>
        failsBy_append (List.forall_mem_nil _) hrefusal
      exact Assignment.faultsWithin hh value attr.name element false fault
        (hh _ (.of_resolve hresolve)) helement hv hf
    | _ =>
      simp only [ht]
      exact failsBy_throw hrefusal

theorem failsBy_pull (hh : ∀ n, h.Names n → o.named n)
    (hc : Selector.Position.Covered o (.root rootClass root)) (hs : s.Covered o)
    (hlast : o.named s.lastKey) :
    (pull h rootClass s).FailsBy (Fault.Within h o) root := by
  have hlost : Fault.Within h o .objectNotFound := List.forall_mem_nil _
  refine (failsBy_reading fun _ hl => within_of_locateObject hh hc hs hl).bind fun l _ _ => ?_
  unfold takeAway
  split
  · refine (failsBy_layoutAt hlost).bind fun parent _ _ => ?_
    split
    · split
      · split
        · exact failsBy_writeAt hlost
        · exact failsBy_throw hlost
      · exact failsBy_throw hlost
    · split
      · exact failsBy_writeAt hlost
      · exact failsBy_throw hlost
    · exact failsBy_throw (List.forall_mem_singleton.2 hlast)
  · exact failsBy_throw hlost

end Edit

end TypedDocs
