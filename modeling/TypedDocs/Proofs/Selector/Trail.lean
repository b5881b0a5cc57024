import Mathlib.Data.List.Basic
import TypedDocs.Pattern.Basic
import TypedDocs.Proofs.Query.Verdicts
import TypedDocs.Proofs.Selector.Reach
import TypedDocs.Proofs.Value.Frame

/-!
# The way of a selector

A step with a pattern hops from an object to the value of an attribute of its class, or to the first
item of an array there that matches.  Steps that hop from object to object are a trail.  A selector
that leads anywhere is a trail, after which its last step hops once more or names an attribute of
the object that was reached.  So all that its location names is there, and no internal key is on
the way:

    s.locate h rootClass root = .ok l → ∃ value, at? root l.target = some value ∧ …
                                                                                 (leads_of_locate)
    Leads h start s l value → l.target.External                                     (Leads.external)
-/

namespace TypedDocs

/-! ## Definitions -/

/-- The path from an object to what stands in a slot of it. -/
def Slot.path (s : Slot) : Path := .field s.key :: s.index.toList.map .index

/-- The path enters no object through an internal key. -/
def Path.External (path : Path) : Prop := ∀ key, .field key ∈ path → Key.isInternal key = false

theorem Path.external_nil : Path.External [] := by
  intro key hk
  cases hk

theorem Path.External.append {p q : Path} (hp : p.External) (hq : q.External) :
    (p ++ q).External := by
  intro key hk
  rcases List.mem_append.1 hk with hk | hk
  · exact hp key hk
  · exact hq key hk

namespace Selector

section Engine

variable {ρ : Type} [Pattern.Engine ρ]

/-- A step with a pattern leads from an object through an attribute to a value, which matches the
pattern: what is stored for the attribute, or of an array that is compared with no array the first
item that matches. -/
inductive Hop (h : Hierarchy) (here : Position) (step : SelectorStep) (attr : ResolvedAttribute) :
    Slot → Value → Prop where
  | whole {pattern value : Value} (hattr : h.resolveKey here.classId step.key = .ok attr)
    (hpattern : step.pattern = some pattern) (hvalue : here.layout.get? attr.wire = some value)
    (hplain : ∀ items, value = .array items → ∃ patterns, pattern = .array patterns)
    (hmatch : Query.Matches h false attr.elementClass value pattern) :
    Hop h here step attr ⟨attr.wire, none⟩ value
  | item {pattern item : Value} {items : List Value} {i : Nat}
    (hattr : h.resolveKey here.classId step.key = .ok attr)
    (hpattern : step.pattern = some pattern)
    (hvalue : here.layout.get? attr.wire = some (.array items))
    (hother : ∀ patterns, pattern ≠ .array patterns)
    (hfirst : Query.FirstMatch h false attr.elementClass items pattern i item) :
    Hop h here step attr ⟨attr.wire, some i⟩ item

/-- Steps lead from one object to another, each to an object of the class that this one names or is
declared to have. -/
inductive Trail (h : Hierarchy) : Position → Selector → Position → Prop where
  | nil {here : Position} : Trail h here [] here
  | cons {here there : Position} {step : SelectorStep} {rest : Selector}
    {attr : ResolvedAttribute} {slot : Slot} {fields : Layout} {c : String}
    (hop : Hop h here step attr slot (.object fields))
    (hclass : h.embeddedClass attr.elementClass fields = some c)
    (trail : Trail h ⟨here.path ++ slot.path, c, fields⟩ rest there) :
    Trail h here (step :: rest) there

/-- From an object a selector leads to a location and the value there.  Without steps this is the
object itself.  Else all steps but the last are a trail: a last step without a pattern names an
attribute of the object that was reached, and one with a pattern hops on from there. -/
inductive Leads (h : Hierarchy) (start : Position) : Selector → Location → Value → Prop where
  | start : Leads h start [] (start.asTarget start none) (.object start.layout)
  | named {there before : Position} {steps : Selector} {step : SelectorStep}
    {attr : ResolvedAttribute} (trail : Trail h start steps there)
    (hpattern : step.pattern = none) (hattr : h.resolveKey there.classId step.key = .ok attr) :
    Leads h start (steps ++ [step]) (there.asTarget before (some attr)) (.object there.layout)
  | hopped {there : Position} {steps : Selector} {step : SelectorStep} {attr : ResolvedAttribute}
    {slot : Slot} {value : Value} (trail : Trail h start steps there)
    (hop : Hop h there step attr slot value) :
    Leads h start (steps ++ [step])
      { target := there.path ++ slot.path
        targetClass := classOfValue h attr value
        parent := there.path
        parentClass := there.classId
        attribute? := some attr
        slot := some slot } value

/-- The root of a document of a class. -/
def Position.root (rootClass : String) (root : Layout) : Position := ⟨[], rootClass, root⟩

/-- The path of a position leads to its object. -/
def Position.In (p : Position) (root : Layout) : Prop := root.at? p.path = some p.layout

/-! ## Hops -/

variable {h : Hierarchy} {start here there before : Position} {step : SelectorStep}
  {steps rest s : Selector} {attr : ResolvedAttribute} {slot : Slot} {value : Value}
  {rootClass : String} {root : Layout} {l : Location}

theorem hop_of_pick {pattern : Value} {path : Path}
    (hattr : h.resolveKey here.classId step.key = .ok attr) (hpattern : step.pattern = some pattern)
    (hp : pick h here attr step.key pattern = .ok (value, path, slot)) :
    Hop h here step attr slot value ∧ path = here.path ++ slot.path := by
  obtain ⟨stored, verdict, hstored, hm, hcases⟩ := pick_eq_ok hp
  rcases hcases with ⟨rfl, rfl, rfl, rfl⟩ | ⟨items, i, rfl, rfl, hi, rfl, rfl⟩
  · obtain ⟨-, hplain⟩ | ⟨items, i, item, he, -⟩ := Query.matchValue_hit hm rfl
    · exact ⟨.whole hattr hpattern hstored hplain ⟨.hit, hm, rfl⟩, rfl⟩
    · cases he
  · obtain ⟨he, -⟩ | ⟨_, _, item, he, hitems, hother, hfirst⟩ := Query.matchValue_hit hm rfl
    · cases he
    · cases he
      cases hitems
      have hitem := hfirst.found
      rw [hi] at hitem
      cases hitem
      exact ⟨.item hattr hpattern hstored hother hfirst, rfl⟩

/-- What a hop leads to stands in its slot. -/
theorem Hop.at?_slot (hop : Hop h here step attr slot value) :
    Value.at? (.object here.layout) slot.path = some value := by
  cases hop with
  | whole _ _ hvalue _ _ =>
    show Value.at? _ [.field attr.wire] = _
    rw [Value.at?_field, hvalue]
  | @item _ _ _ i _ _ hvalue _ hfirst =>
    show Value.at? _ ([.field attr.wire] ++ [.index i]) = _
    rw [Value.at?_append, Value.at?_field, hvalue, Option.bind_some, Value.at?_item, hfirst.found]

theorem Hop.at?_path (hop : Hop h here step attr slot value) (hin : here.In root) :
    Value.at? (.object root) (here.path ++ slot.path) = some value := by
  rw [Value.at?_append_of_at? (Layout.at?_eq_some_iff.1 hin), hop.at?_slot]

theorem Hop.exists_pattern (hop : Hop h here step attr slot value) :
    ∃ pattern, step.pattern = some pattern := by
  cases hop with
  | whole _ hpattern _ _ _ => exact ⟨_, hpattern⟩
  | item _ hpattern _ _ _ => exact ⟨_, hpattern⟩

theorem Hop.external (hop : Hop h here step attr slot value) : slot.path.External := by
  intro key hk
  cases hop with
  | whole hattr _ _ _ _ =>
    obtain rfl : key = attr.wire := by simpa [Slot.path] using hk
    exact Hierarchy.isInternal_wire_of_resolveKey hattr
  | item hattr _ _ _ _ =>
    obtain rfl : key = attr.wire := by simpa [Slot.path] using hk
    exact Hierarchy.isInternal_wire_of_resolveKey hattr

/-! ## Trails -/

theorem Position.in_root (rootClass : String) (root : Layout) :
    (Position.root rootClass root).In root := rfl

theorem Trail.in_root (trail : Trail h here s there) (hin : here.In root) : there.In root := by
  induction trail with
  | nil => exact hin
  | cons hop _ _ ih => exact ih (Layout.at?_eq_some_iff.2 (hop.at?_path hin))

theorem Trail.external (trail : Trail h here s there) (hp : here.path.External) :
    there.path.External := by
  induction trail with
  | nil => exact hp
  | cons hop _ _ ih => exact ih (hp.append hop.external)

/-- A hop before what a selector leads to is its first step. -/
theorem Leads.cons {fields : Layout} {c : String} (hne : rest ≠ [])
    (hop : Hop h here step attr slot (.object fields))
    (hclass : h.embeddedClass attr.elementClass fields = some c)
    (hl : Leads h ⟨here.path ++ slot.path, c, fields⟩ rest l value) :
    Leads h here (step :: rest) l value := by
  cases hl with
  | start => exact absurd rfl hne
  | named trail hpattern hattr => exact .named (.cons hop hclass trail) hpattern hattr
  | hopped trail hop' => exact .hopped (.cons hop hclass trail) hop'

theorem leads_of_locateFrom (hne : s ≠ []) (hl : locateFrom h before here s = .ok l) :
    ∃ value, Leads h here s l value := by
  induction s generalizing before here with
  | nil => exact absurd rfl hne
  | cons step rest ih =>
    obtain ⟨attr, hattr, ⟨hpattern, rfl, rfl⟩ | ⟨pattern, v, path, slot, hpattern, hpick, hend⟩⟩ :=
      locateFrom_cons_eq_ok hl
    · exact ⟨_, .named .nil hpattern hattr⟩
    · obtain ⟨hop, rfl⟩ := hop_of_pick hattr hpattern hpick
      rcases hend with ⟨rfl, rfl⟩ | ⟨fields, c, hrest, rfl, hclass, hl⟩
      · exact ⟨v, .hopped .nil hop⟩
      · obtain ⟨value, hleads⟩ := ih hrest hl
        exact ⟨value, hleads.cons hrest hop hclass⟩

/-! ## Locations -/

/-- What a location names is there: the object that it stands in, and the value that it leads to,
which is an object if it has a class. -/
theorem Leads.at?_target (hl : Leads h start s l value) (hin : start.In root) :
    Value.at? (.object root) l.target = some value ∧
      ∀ c, l.targetClass = some c → ∃ fields, value = .object fields := by
  cases hl with
  | start => exact ⟨Layout.at?_eq_some_iff.1 hin, fun _ _ => ⟨_, rfl⟩⟩
  | named trail _ _ => exact ⟨Layout.at?_eq_some_iff.1 (trail.in_root hin), fun _ _ => ⟨_, rfl⟩⟩
  | hopped trail hop =>
    refine ⟨hop.at?_path (trail.in_root hin), fun c hc => ?_⟩
    cases value with
    | object fields => exact ⟨fields, rfl⟩
    | _ => cases hc

/-- A location has a slot exactly when the last step has a pattern. -/
theorem Leads.isSome_slot (hl : Leads h start s l value) :
    l.slot.isSome = (s.getLast?.bind SelectorStep.pattern).isSome := by
  cases hl with
  | start => rfl
  | named trail hpattern _ =>
    rw [List.getLast?_concat, Option.bind_some, hpattern]
    rfl
  | hopped trail hop =>
    obtain ⟨pattern, hpattern⟩ := hop.exists_pattern
    rw [List.getLast?_concat, Option.bind_some, hpattern]
    rfl

/-- What a location with a slot leads to, the last step hops to from the parent. -/
theorem Leads.exists_hop (hl : Leads h start s l value) (hslot : l.slot = some slot)
    (hin : start.In root) :
    ∃ here step attr, s.getLast? = some step ∧ l.attribute? = some attr ∧
      root.at? l.parent = some here.layout ∧ Hop h here step attr slot value := by
  cases hl with
  | start => cases hslot
  | named _ _ _ => cases hslot
  | hopped trail hop =>
    cases hslot
    exact ⟨_, _, _, List.getLast?_concat, rfl, trail.in_root hin, hop⟩

theorem Leads.external (hl : Leads h start s l value) (hs : start.path.External) :
    l.target.External := by
  cases hl with
  | start => exact hs
  | named trail _ _ => exact trail.external hs
  | hopped trail hop => exact (trail.external hs).append hop.external

/-- The object before the target is one that was passed. -/
theorem parent_of_locateFrom (hb : before.In root) (hh : here.In root)
    (hl : locateFrom h before here s = .ok l) : ∃ parent, root.at? l.parent = some parent := by
  induction s generalizing before here with
  | nil =>
    cases hl
    exact ⟨before.layout, hb⟩
  | cons step rest ih =>
    obtain ⟨attr, hattr, ⟨-, -, rfl⟩ | ⟨pattern, v, path, slot, hpattern, hpick, hend⟩⟩ :=
      locateFrom_cons_eq_ok hl
    · exact ⟨before.layout, hb⟩
    · obtain ⟨hop, rfl⟩ := hop_of_pick hattr hpattern hpick
      rcases hend with ⟨-, rfl⟩ | ⟨fields, c, -, rfl, -, hl⟩
      · exact ⟨here.layout, hh⟩
      · exact ih hh (Layout.at?_eq_some_iff.2 (hop.at?_path hh)) hl

theorem exists_parent_of_locate (hl : s.locate h rootClass root = .ok l) :
    ∃ parent, root.at? l.parent = some parent :=
  parent_of_locateFrom (Position.in_root rootClass root) (Position.in_root rootClass root) hl

theorem exists_leads_of_locate (hl : s.locate h rootClass root = .ok l) :
    ∃ value, Leads h (.root rootClass root) s l value := by
  cases s with
  | nil =>
    cases hl
    exact ⟨_, .start⟩
  | cons step rest => exact leads_of_locateFrom (List.cons_ne_nil step rest) hl

/-! ## Main statement -/

/-- Whatever selector leads anywhere in a root: the parent is an object of the root, the target is
there, and is an object if it has a class, and the selector leads to it hop by hop. -/
theorem leads_of_locate (hl : s.locate h rootClass root = .ok l) :
    (∃ parent, root.at? l.parent = some parent) ∧
      ∃ value, Value.at? (.object root) l.target = some value ∧
        (∀ c, l.targetClass = some c → ∃ fields, value = .object fields) ∧
        Leads h (.root rootClass root) s l value := by
  obtain ⟨value, hleads⟩ := exists_leads_of_locate hl
  obtain ⟨htarget, hobject⟩ := hleads.at?_target (Position.in_root rootClass root)
  exact ⟨exists_parent_of_locate hl, value, htarget, hobject, hleads⟩

end Engine

/-- A task with two subtasks. -/
def plannedTask : Layout :=
  [("_class", .string "Task"), ("_id", .string "t1"),
    ("tasks", .array [.object [("_class", .string "SubTask"), ("name", .string "draft")],
      .object [("_class", .string "SubTask"), ("name", .string "print")]])]

/-- The name of the subtask that is to be printed. -/
theorem leads_of_locate_subtask :
    ∃ l, locate .tasks "Task" plannedTask
        [⟨"tasks", some (.object [("name", .string "print")])⟩, ⟨"name", none⟩] = .ok l ∧
      (∃ parent, plannedTask.at? l.parent = some parent) ∧
      ∃ value, Value.at? (.object plannedTask) l.target = some value ∧
        Leads .tasks (.root "Task" plannedTask)
          [⟨"tasks", some (.object [("name", .string "print")])⟩, ⟨"name", none⟩] l value := by
  have hl : locate .tasks "Task" plannedTask
      [⟨"tasks", some (.object [("name", .string "print")])⟩, ⟨"name", none⟩] =
        .ok ⟨[.field "tasks", .index 1], some "SubTask", [], "Task",
          some ⟨⟨"name", .string⟩, "SubTask", .plain "name"⟩, none⟩ := by
    cbv
  obtain ⟨hparent, value, htarget, -, hleads⟩ := leads_of_locate hl
  exact ⟨_, hl, hparent, value, htarget, hleads⟩

end Selector

end TypedDocs
