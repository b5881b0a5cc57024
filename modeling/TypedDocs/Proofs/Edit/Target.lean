import TypedDocs.Pattern.Basic
import TypedDocs.Proofs.Assignment.Frame
import TypedDocs.Proofs.Edit.Identity
import TypedDocs.Proofs.Selector.Trail

/-!
# What setting changes

`set` replaces the object that its selector leads to by what assigning the values to it makes.  All
that is apart from the way there stays, and in the object itself all that the values do not name;
its id and its class stay, and so do the mixins of every object on the way, unless it is the root
that is set.

    set … root = .ok () root' → ∃ l target new, … ∧ root.replace? l.target new = some root' ∧
      Leaves h classId values target new ∧ AgreeApart l.target root root'
                                                                            (replaces_target_of_set)
-/

namespace TypedDocs.Edit

open Assignment (Leaves leaves_assign spares_of_get?)

section Engine

variable {ρ : Type} [Pattern.Engine ρ]
variable {h : Hierarchy} {strict : Bool} {rootClass : String} {root root' : Layout} {s : Selector}
  {l : Location} {path q : Path} {key : String}

/-! ## Replacements -/

theorem agreeApart_of_replace? {old new : Layout} (ho : root.at? path = some old)
    (hr : root.replace? path new = some root')
    (hq : Value.AgreeApart q (.object old) (.object new)) :
    Value.AgreeApart (path ++ q) (.object root) (.object root') :=
  Value.agreeApart_replace? (Layout.at?_eq_some_iff.1 ho) (Layout.replace?_eq_some_iff.1 hr) hq

/-- The entry of an object on a path under a key that the path does not enter by is apart from the
path. -/
theorem apart_field {p : Path} (hp : p <+: path) (hne : p ≠ path)
    (hk : .field key ∉ path) : Path.Apart (p ++ [.field key]) path := by
  obtain ⟨rest, rfl⟩ := hp
  cases rest with
  | nil => exact absurd (List.append_nil p).symm hne
  | cons step rest =>
    have hstep : .field key ≠ step := by
      rintro rfl
      exact hk (List.mem_append_right p List.mem_cons_self)
    constructor
    · intro hpre
      exact hstep (List.cons_prefix_cons.1 ((List.prefix_append_right_inj p).1 hpre)).1
    · intro hpre
      exact hstep (List.cons_prefix_cons.1 ((List.prefix_append_right_inj p).1 hpre)).1.symm

/-! ## Main statement -/

/-- Setting replaces one object, the one that the selector leads to, by what assigning the values to
it makes; there it leaves what the values do not name, the id and the class.  What is apart from the
way to this object stays, and unless it is the root so do the mixins on the whole way. -/
theorem replaces_target_of_set {values : Layout}
    (hs : set h strict rootClass s values root = .ok () root') :
    ∃ l classId target new, s.locate h rootClass root = .ok l ∧ l.targetClass = some classId ∧
      root.at? l.target = some target ∧
      Assignment.assign h strict classId target values = .ok new ∧
      root.replace? l.target new = some root' ∧ root'.at? l.target = some new ∧
      Leaves h classId values target new ∧
      new.get? Document.idKey = target.get? Document.idKey ∧
      Value.AgreeApart l.target (.object root) (.object root') ∧
      (l.target ≠ [] → ∀ p, p <+: l.target →
        Value.at? (.object root') (p ++ [.field Document.mixinsKey]) =
          Value.at? (.object root) (p ++ [.field Document.mixinsKey])) := by
  obtain ⟨l, classId, target, new, hl, hclass, hcheck, htarget, ha, hr⟩ := set_eq_ok_iff.1 hs
  obtain ⟨hid, htag, hmixins⟩ := checkIdentity_eq_ok hcheck
  have hlocate := locate_of_locateObject hl
  have hleaves := leaves_assign htag ha
  have hnew : root'.at? l.target = some new := Layout.at?_of_replace? hr
  have hapart : Value.AgreeApart l.target (.object root) (.object root') := by
    simpa using agreeApart_of_replace? htarget hr (Value.agreeApart_nil _ _)
  refine ⟨l, classId, target, new, hlocate, hclass, htarget, ha, hr, hnew, hleaves, ?id, hapart,
    ?mixins⟩
  case id =>
    exact hleaves.others _ (by decide) (spares_of_get? Document.isInternal_idKey hid)
  case mixins =>
    intro hbelow p hp
    by_cases hend : p = l.target
    · -- At the target itself the values name no mixins, as it is not the root.
      have hnone : values.get? Document.mixinsKey = none := by
        cases hv : values.get? Document.mixinsKey with
        | none => rfl
        | some value => exact absurd (hmixins value hv).1 hbelow
      subst hend
      rw [Value.at?_append_of_at? (Layout.at?_eq_some_iff.1 hnew),
        Value.at?_append_of_at? (Layout.at?_eq_some_iff.1 htarget), Value.at?_field,
        Value.at?_field]
      exact hleaves.others _ (by decide) (spares_of_get? Document.isInternal_mixinsKey hnone)
    · obtain ⟨value, hleads⟩ := Selector.exists_leads_of_locate hlocate
      have hexternal : l.target.External := hleads.external Path.external_nil
      have hout : .field Document.mixinsKey ∉ l.target := by
        intro hmem
        have hint := hexternal _ hmem
        rw [Document.isInternal_mixinsKey] at hint
        cases hint
      exact hapart _ (apart_field hp hend hout)

end Engine

/-- A rate for the second subtask. -/
theorem replaces_target_of_set_rate :
    ∃ root', set .tasks false "Task" [⟨"tasks", some (.object [("name", .string "print")])⟩]
        [("rate", .number (.integer 3))] Selector.plannedTask = .ok () root' ∧
      ∃ l classId target new, Selector.locate .tasks "Task" Selector.plannedTask
          [⟨"tasks", some (.object [("name", .string "print")])⟩] = .ok l ∧
        l.targetClass = some classId ∧ Selector.plannedTask.at? l.target = some target ∧
        root'.at? l.target = some new ∧
        Leaves .tasks classId [("rate", .number (.integer 3))] target new ∧
        Value.AgreeApart l.target (.object Selector.plannedTask) (.object root') := by
  have hlocate : locateObject .tasks "Task" Selector.plannedTask
      [⟨"tasks", some (.object [("name", .string "print")])⟩] =
        .ok ⟨[.field "tasks", .index 1], some "SubTask", [], "Task",
          some ⟨⟨"tasks", .arrayOf (.instanceOf "SubTask")⟩, "Task", .plain "tasks"⟩,
          some ⟨"tasks", some 1⟩⟩ := by
    cbv
  obtain ⟨root', hs⟩ : ∃ root', set .tasks false "Task"
      [⟨"tasks", some (.object [("name", .string "print")])⟩] [("rate", .number (.integer 3))]
      Selector.plannedTask = .ok () root' :=
    ⟨_, set_eq_ok_iff.2 ⟨_, _, _, _, hlocate, rfl, rfl, rfl, rfl, rfl⟩⟩
  obtain ⟨l, classId, target, new, hl, hclass, htarget, -, -, hnew, hleaves, -, hapart, -⟩ :=
    replaces_target_of_set hs
  exact ⟨root', hs, l, classId, target, new, hl, hclass, htarget, hnew, hleaves, hapart⟩

end TypedDocs.Edit
