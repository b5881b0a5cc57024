import TypedDocs.Proofs.Assignment.Overlay

/-!
# What an assignment leaves

An assignment writes under the keys that its values are stored under, and besides under the key of
the class, where it puts a class only if the target names none.

    assign h strict c target values = .ok new → values.get? "_class" = none →
      Leaves h c values target new                                                (leaves_assign)
-/

namespace TypedDocs

/-! ## Definitions -/

/-- The key under which an entry of the values of a class is stored. -/
def Hierarchy.storedKey? (h : Hierarchy) (classId key : String) : Option String :=
  if Key.isInternal key then some key
  else (h.resolveKey classId key).toOption.map ResolvedAttribute.wire

namespace Assignment

/-- The key is none of those that values are stored under. -/
def Spares (h : Hierarchy) (classId : String) (values : List (String × Value)) (key : String) :
    Prop :=
  ∀ e ∈ values, h.storedKey? classId e.1 ≠ some key

/-- Every entry is left that the values are not stored under, but a target that names no class gets
one. -/
structure Leaves (h : Hierarchy) (classId : String) (values target new : Layout) : Prop where
  others : ∀ key, key ≠ Document.classKey → Spares h classId values key →
    new.get? key = target.get? key
  tag : new.get? Document.classKey = target.get? Document.classKey ∨
    Document.tag? target = none ∧ ∃ c, h.concreteClass classId = .ok c ∧
      new.get? Document.classKey = some (.string c)

/-! ## Keys that are spared -/

variable {h : Hierarchy} {strict : Bool} {classId key : String} {target result values : Layout}
  {entries : List (String × Value)}

theorem spares_of_get? (hk : Key.isInternal key = true) (hn : values.get? key = none) :
    Spares h classId values key := by
  intro e he hs
  rw [Hierarchy.storedKey?] at hs
  split at hs
  · cases hs
    exact Keyed.ne_of_get?_eq_none hn he rfl
  · cases hr : h.resolveKey classId e.1 with
    | error fault =>
      rw [hr] at hs
      cases hs
    | ok attr =>
      rw [hr] at hs
      cases hs
      rw [Hierarchy.isInternal_wire_of_resolveKey hr] at hk
      cases hk

/-! ## Entries -/

/-- The layout names a class, or the key is another than that of the class: then no class is put
under the key. -/
def Settled (layout : Layout) (key : String) : Prop :=
  key = Document.classKey → ∃ tag, Document.tag? layout = some tag

theorem Settled.insert {written : String} (hc : Settled target key) (hne : written ≠ key)
    (value : Value) : Settled (Keyed.insert target written value) key := by
  intro hkey
  rw [tag?_insert_of_ne value (hkey ▸ hne)]
  exact hc hkey

theorem Settled.withTag {tagged : Layout} {owner : String} (hc : Settled target key)
    (ht : withTag h owner target = .ok tagged) :
    tagged.get? key = target.get? key ∧ Settled tagged key := by
  rcases withTag_eq_ok ht with ⟨tag, -, rfl⟩ | ⟨base, hnone, -, rfl⟩
  · exact ⟨rfl, hc⟩
  · have hother : key ≠ Document.classKey := by
      intro he
      obtain ⟨tag, htag⟩ := hc he
      rw [hnone] at htag
      cases htag
    exact ⟨Keyed.get?_insert_of_ne _ _ hother, fun he => absurd he hother⟩

/-- A key that the entries spare keeps what it has; that of the class does if there is a class. -/
theorem get?_assignEntries_of_spares (hs : Spares h classId entries key) (hc : Settled target key)
    (hr : assignEntries h strict classId target entries = .ok result) :
    result.get? key = target.get? key := by
  induction entries generalizing target with
  | nil =>
    rw [assignEntries] at hr
    cases hr
    rfl
  | cons e rest ih =>
    obtain ⟨k, v⟩ := e
    obtain ⟨hfirst, hrest⟩ := List.forall_mem_cons.1 hs
    rw [Hierarchy.storedKey?] at hfirst
    rcases assignEntries_cons_eq_ok hr with
      ⟨hint, hnext⟩ | ⟨attr, typed, tagged, hint, hattr, -, htag, hnext⟩
    · rw [hint, if_pos rfl] at hfirst
      have hne : k ≠ key := fun he => hfirst (congrArg some he)
      rw [ih hrest (hc.insert hne v) hnext, Keyed.get?_insert_of_ne _ _ hne.symm]
    · rw [hint, if_neg (by decide), hattr] at hfirst
      have hne : attr.wire ≠ key := fun he => hfirst (congrArg some he)
      have htagged : tagged.get? key = target.get? key ∧ Settled tagged key := by
        rcases htag with rfl | ⟨name, owner, -, htag⟩
        · exact ⟨rfl, hc⟩
        · exact hc.withTag htag
      rw [ih hrest (htagged.2.insert hne typed) hnext, Keyed.get?_insert_of_ne _ _ hne.symm,
        htagged.1]

/-! ## Main statement -/

theorem leaves_assign (hn : values.get? Document.classKey = none)
    (ha : assign h strict classId target values = .ok result) :
    Leaves h classId values target result := by
  have hspared : Spares h classId values Document.classKey :=
    spares_of_get? Document.isInternal_classKey hn
  rw [assign] at ha
  cases ht : withTag h classId target with
  | error fault =>
    rw [ht] at ha
    cases ha
  | ok tagged =>
    simp only [ht] at ha
    rcases withTag_eq_ok ht with ⟨tag, htag, rfl⟩ | ⟨c, hnone, hconcrete, rfl⟩
    · exact ⟨fun key _ hs => get?_assignEntries_of_spares hs (fun _ => ⟨tag, htag⟩) ha,
        .inl (get?_assignEntries_of_spares hspared (fun _ => ⟨tag, htag⟩) ha)⟩
    · have htag : ∃ tag, Document.tag? (target.insert Document.classKey (.string c)) = some tag :=
        ⟨c, by rw [Document.tag?, Keyed.get?_insert_self]; rfl⟩
      refine ⟨fun key hne hs => ?_, .inr ⟨hnone, c, hconcrete, ?_⟩⟩
      · rw [get?_assignEntries_of_spares hs (fun _ => htag) ha, Keyed.get?_insert_of_ne _ _ hne]
      · rw [get?_assignEntries_of_spares hspared (fun _ => htag) ha, Keyed.get?_insert_self]

end Assignment

end TypedDocs
