import TypedDocs.Pattern.Basic
import TypedDocs.Proofs.Edit.Append
import TypedDocs.Proofs.Edit.Removal
import TypedDocs.Proofs.Selector.Prefix
import TypedDocs.Proofs.Value.Order

/-!
# Pulling what was pushed

What was pushed last can be pulled again.  The steps before the last one have to lead to the same
object after the push, and the pattern has to match the pushed item and none before it.  Then the
root is what it was, but for an array that was made for the item: this stays, without items.

    push … (steps ++ [⟨key, none⟩]) value root = .ok () pushed → SameTarget … root pushed →
      … FindsLast h attr.elementClass items item pattern →
        ∃ pulled, pull … (steps ++ [⟨key, some pattern⟩]) pushed = .ok () pulled ∧ …
                                                                               (pull_undoes_push)
-/

namespace TypedDocs.Edit

open Query (Matches)
open Selector (Position Walks SameTarget)

section Engine

variable {ρ : Type} [Pattern.Engine ρ]

/-! ## Definition -/

/-- A pattern finds an item after others: it matches the item and none of them. -/
structure FindsLast (h : Hierarchy) (declared : Option String) (items : List Value) (item : Value)
    (pattern : Value) : Prop where
  notArray : ∀ patterns, pattern ≠ .array patterns
  matched : Matches h false declared item pattern
  missed : ∀ other ∈ items, Query.matchValue h false declared other pattern = .ok .miss

variable {h : Hierarchy} {strict : Bool} {rootClass key : String}
  {root pushed pulled owner : Layout} {steps : Selector} {attr : ResolvedAttribute}
  {element : AttributeType} {value item pattern : Value} {items : List Value} {l : Location}
  {path : Path} {prior there : Position}

/-! ## The object that is pushed to -/

/-- A selector whose last step has no pattern ends where the other steps walk to. -/
theorem exists_walks_of_locate
    (hl : Selector.locate h rootClass root (steps ++ [⟨key, none⟩]) = .ok l)
    (hattr : l.attribute? = some attr) :
    ∃ prior there, Walks h (.root rootClass root) (.root rootClass root) steps prior there ∧
      l.target = there.path ∧ l.slot = none ∧ h.resolveKey there.classId key = .ok attr := by
  have hne : [SelectorStep.mk key none] ≠ [] := List.cons_ne_nil _ _
  obtain ⟨prior, there, walk⟩ := Selector.walks_of_locateFrom hne hl
  have hlast : Selector.locateFrom h prior there [⟨key, none⟩] = .ok l := by
    rw [← walk.locateFrom_append hne]
    exact hl
  obtain ⟨attr', hattr', ⟨-, -, rfl⟩ | ⟨pattern, v, path, slot, hpattern, -⟩⟩ :=
    Selector.locateFrom_cons_eq_ok hlast
  · cases hattr
    exact ⟨prior, there, walk, rfl, rfl, hattr'⟩
  · cases hpattern

/-- Nothing that names a class on the way to an object changes when an item is added to an array of
this object. -/
theorem at?_classKey_of_push (hexternal : path.External) (hwire : Key.isInternal attr.wire = false)
    (hapart : Value.AgreeApart (path ++ [.field attr.wire, .index items.length]) (.object root)
      (.object pushed)) {p : Path} (hp : p <+: path) :
    Value.at? (.object pushed) (p ++ [.field Document.classKey]) =
      Value.at? (.object root) (p ++ [.field Document.classKey]) := by
  apply hapart
  apply apart_field
  · exact hp.trans (List.prefix_append path _)
  · intro he
    have hlength := hp.length_le
    rw [he, List.length_append] at hlength
    simp only [List.length_cons, List.length_nil] at hlength
    omega
  · have hslot : Path.External [.field attr.wire, .index items.length] := by
      intro k hk
      obtain rfl : k = attr.wire := by simpa using hk
      exact hwire
    intro hmem
    have hinternal := hexternal.append hslot _ hmem
    rw [Document.isInternal_classKey] at hinternal
    cases hinternal

/-- If the steps before the last one lead to the same object after a push, they walk to it again,
and find it with the item. -/
theorem exists_walks_of_push
    (hl : Selector.locate h rootClass root (steps ++ [⟨key, none⟩]) = .ok l)
    (hnamed : l.attribute? = some attr) (howner : root.at? l.target = some owner)
    (hi : itemsUnder owner attr.wire = some items)
    (hr : root.replace? l.target (owner.insert attr.wire (.array (items ++ [item]))) = some pushed)
    (hsame : SameTarget h rootClass steps root pushed) :
    ∃ prior there, Walks h (.root rootClass pushed) (.root rootClass pushed) steps prior there ∧
      there.path = l.target ∧ there.layout = owner.insert attr.wire (.array (items ++ [item])) ∧
      h.resolveKey there.classId key = .ok attr := by
  obtain ⟨prior, there, walk, hpath, -, hattr⟩ := exists_walks_of_locate hl hnamed
  obtain ⟨_, hleads⟩ := Selector.exists_leads_of_locate hl
  have hexternal : l.target.External := hleads.external Path.external_nil
  have hwire := Hierarchy.isInternal_wire_of_resolveKey hattr
  have hapart := agreeApart_of_replace? howner hr (agreeApart_append hi item)
  have hpushed : pushed.at? l.target = some (owner.insert attr.wire (.array (items ++ [item]))) :=
    Layout.at?_of_replace? hr
  obtain ⟨l₁, l₂, hl₁, hl₂, htarget⟩ := hsame
  have hend : l₂.target = there.path := htarget.trans (walk.target_eq hl₁)
  have htags (p : Path) (hp : p <+: there.path) :
      Value.at? (.object pushed) (p ++ [.field Document.classKey]) =
        Value.at? (.object root) (p ++ [.field Document.classKey]) :=
    at?_classKey_of_push hexternal hwire hapart (hpath ▸ hp)
  obtain ⟨prior', there', walk', hpath', hclass⟩ :=
    walk.exists_walks (Position.in_root rootClass root) (Position.in_root rootClass pushed) rfl rfl
      hl₂ hend (hpath ▸ hpushed) htags
  have hin : pushed.at? there'.path = some there'.layout :=
    walk'.in_root (Position.in_root rootClass pushed)
  rw [hpath', ← hpath, hpushed] at hin
  exact ⟨prior', there', walk', hpath'.trans hpath.symm, (Option.some.inj hin).symm, hclass ▸ hattr⟩

/-! ## The item that was pushed -/

theorem pick_concat (hstored : there.layout.get? attr.wire = some (.array (items ++ [item])))
    (hf : FindsLast h attr.elementClass items item pattern) :
    Selector.pick h there attr key pattern =
      .ok (item, there.path ++ [.field attr.wire] ++ [.index items.length],
        ⟨attr.wire, some items.length⟩) := by
  have hsearch : Query.matchValue h false attr.elementClass (.array (items ++ [item])) pattern =
      .ok (.hitAt items.length) := by
    rw [Query.matchValue_array_other hf.notArray,
      Query.matchAny_append_cons hf.missed hf.matched, Nat.zero_add]
  rw [Selector.pick, hstored]
  simp only [hsearch, ok_bind, List.getElem?_concat_length]

/-- What taking the last item out of an array leaves. -/
theorem withoutSlot_concat {type : AttributeType} {element : AttributeType}
    (htype : type = .arrayOf element) (owner : Layout) (key : String) (items : List Value)
    (item : Value) :
    withoutSlot type (owner.insert key (.array (items ++ [item]))) ⟨key, some items.length⟩ =
      some (owner.insert key (.array items)) := by
  subst htype
  have hlt : items.length < (items ++ [item]).length := by
    rw [List.length_append, List.length_singleton]
    omega
  have herase : (items ++ [item]).eraseIdx items.length = items := by
    rw [List.eraseIdx_append_of_length_le (Nat.le_refl _), Nat.sub_self]
    simp
  simp only [withoutSlot, Keyed.get?_insert_self, if_pos hlt, herase, Keyed.insert_insert]

/-- The last item of an array of the object that steps walk to can be pulled by a pattern that finds
it. -/
theorem pull_concat
    (walk : Walks h (.root rootClass pushed) (.root rootClass pushed) steps prior there)
    (hattr : h.resolveKey there.classId key = .ok attr) (htype : attr.type = .arrayOf element)
    (hlayout : there.layout = owner.insert attr.wire (.array (items ++ [item])))
    (hf : FindsLast h attr.elementClass items item pattern)
    (hr : pushed.replace? there.path (owner.insert attr.wire (.array items)) = some pulled) :
    pull h rootClass (steps ++ [⟨key, some pattern⟩]) pushed = .ok () pulled := by
  have hstored : there.layout.get? attr.wire = some (.array (items ++ [item])) := by
    rw [hlayout, Keyed.get?_insert_self]
  have hbag : ∀ element, attr.type ≠ .bagOf element := by
    intro other he
    rw [htype] at he
    cases he
  have hlast : Selector.locateFrom h prior there [⟨key, some pattern⟩] = _ :=
    Selector.locateFrom_last hattr rfl hbag (pick_concat hstored hf)
  have hlocate : Selector.locate h rootClass pushed (steps ++ [⟨key, some pattern⟩]) = _ :=
    (walk.locateFrom_append (List.cons_ne_nil _ _)).trans hlast
  have hin : pushed.at? there.path = some there.layout :=
    walk.in_root (Position.in_root rootClass pushed)
  refine pull_eq_ok_iff.2 ⟨_, attr, ⟨attr.wire, some items.length⟩, there.layout, _,
    locateObject_of_locate hlocate, rfl, rfl, hin, ?_, hr⟩
  rw [hlayout]
  exact withoutSlot_concat htype owner attr.wire items item

/-! ## Main statement -/

/-- When the steps before the last one lead to the same object after a push, a pattern that finds
the pushed item pulls it again.  This gives back the root, if the array was there before; else the
root has an empty array more. -/
theorem pull_undoes_push (ho : root.Ordered)
    (hp : push h strict rootClass (steps ++ [⟨key, none⟩]) value root = .ok () pushed)
    (hsame : SameTarget h rootClass steps root pushed) :
    ∃ l attr item owner items,
      PushesItem h strict rootClass root (steps ++ [⟨key, none⟩]) value l attr item ∧
      root.at? l.target = some owner ∧
      (owner.get? attr.wire = none ∧ items = [] ∨ owner.get? attr.wire = some (.array items)) ∧
      root.replace? l.target (owner.insert attr.wire (.array (items ++ [item]))) = some pushed ∧
      ∀ pattern, FindsLast h attr.elementClass items item pattern →
        ∃ pulled, pull h rootClass (steps ++ [⟨key, some pattern⟩]) pushed = .ok () pulled ∧
          (owner.get? attr.wire = some (.array items) → pulled = root) ∧
          (owner.get? attr.wire = none →
            root.replace? l.target (owner.insert attr.wire (.array [])) = some pulled) := by
  obtain ⟨l, attr, element, item, owner, items, hl, hnamed, htype, hitem, howner, hi, hr⟩ :=
    push_eq_ok_iff.1 hp
  have hplace : ownerPath l = l.target := by
    obtain ⟨_, _, _, _, hslot, _⟩ := exists_walks_of_locate hl hnamed
    rw [ownerPath, hslot]
    rfl
  rw [hplace] at howner hr
  obtain ⟨prior, there, walk, hpath, hlayout, hattr⟩ :=
    exists_walks_of_push hl hnamed howner hi hr hsame
  refine ⟨l, attr, item, owner, items, ⟨hl, hnamed, element, htype, hitem⟩, howner,
    itemsUnder_eq_some_iff.1 hi, hr, ?_⟩
  intro pattern hf
  obtain ⟨pulled, hroot⟩ := Layout.exists_replace? howner (owner.insert attr.wire (.array items))
  have hpulled :
      pushed.replace? there.path (owner.insert attr.wire (.array items)) = some pulled := by
    rw [hpath, Layout.replace?_of_replace? hr]
    exact hroot
  refine ⟨pulled, ?pull, ?present, ?absent⟩
  case pull =>
    exact pull_concat walk hattr htype hlayout hf hpulled
  case present =>
    intro harray
    have hsorted : Keyed.Sorted owner := (Layout.ordered_iff.1 (ho.at? howner)).1
    rw [hsorted.insert_eq_self harray, ho.replace?_self howner] at hroot
    exact (Option.some.inj hroot).symm
  case absent =>
    intro hnone
    rcases itemsUnder_eq_some_iff.1 hi with ⟨-, rfl⟩ | harray
    · exact hroot
    · rw [hnone] at harray
      cases harray

end Engine

/-- A third subtask is pushed and pulled again. -/
theorem pull_undoes_push_subtask :
    ∃ pushed, push .tasks true "Task" [⟨"tasks", none⟩] (.object [("name", .string "send")])
        Selector.plannedTask = .ok () pushed ∧
      SameTarget .tasks "Task" [] Selector.plannedTask pushed ∧
      pull .tasks "Task" [⟨"tasks", some (.object [("name", .string "send")])⟩] pushed =
        .ok () Selector.plannedTask := by
  obtain ⟨pushed, hp⟩ : ∃ pushed, push .tasks true "Task" ([] ++ [⟨"tasks", none⟩])
      (.object [("name", .string "send")]) Selector.plannedTask = .ok () pushed :=
    ⟨_, push_eq_ok_iff.2 ⟨_, _, _, _, _, _, rfl, rfl, rfl, rfl, rfl, rfl, rfl⟩⟩
  have hsame : SameTarget .tasks "Task" [] Selector.plannedTask pushed := ⟨_, _, rfl, rfl, rfl⟩
  obtain ⟨l, attr, item, owner, items, ⟨hl, hnamed, element, htype, hitem⟩, howner, hitems, -,
    hpull⟩ := pull_undoes_push (by decide) hp hsame
  cases hl
  cases hnamed
  cases htype
  cases hitem
  cases howner
  have hstored : Keyed.get? Selector.plannedTask "tasks" = some (.array items) := by
    rcases hitems with ⟨hnone, -⟩ | harray
    · cases hnone
    · exact harray
  cases hstored
  obtain ⟨pulled, hpulled, hroot, -⟩ := hpull (.object [("name", .string "send")]) {
    notArray := by simp
    matched := ⟨.hit, by cbv, rfl⟩
    missed := by
      intro other hother
      rcases List.mem_cons.1 hother with rfl | hother
      · cbv
      · cases List.mem_singleton.1 hother
        cbv }
  exact ⟨pushed, hp, hsame, hroot rfl ▸ hpulled⟩

end TypedDocs.Edit
