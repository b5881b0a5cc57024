import TypedDocs.Proofs.Hierarchy.Resolution

/-!
# Attributes that fit a class

An attribute fits a class when a mixin declares it, or a class that the class extends.  What the
class itself resolves fits it, and so does what a classifier resolves whose concrete class it
extends.  An attribute that fits is read back from the key it is stored under, unless a mixin on the
chain of the class declares its name anew.  An attribute that a class shows is the only one that
keys without the name of a classifier write under its key.

    h.resolve id name = .ok r → h.Fits classId r → h.Owns classId r.wire ∨ …       (owns_of_fits)
    h.resolveKey classId key = .ok r' → h.resolve classId name = .ok r → r'.wire = r.wire → r' = r
                                                                       (eq_of_wire_eq_of_plain)
-/

namespace TypedDocs.Hierarchy

variable {h : Hierarchy} {classId id name : String} {r : ResolvedAttribute}

/-! ## Definitions -/

/-- An attribute of a mixin, or of a class that the class extends. -/
def Fits (h : Hierarchy) (classId : String) (r : ResolvedAttribute) : Prop :=
  h.isMixin r.owner = true ∨ h.isSubtype classId r.owner = true

/-- A key that names a classifier denotes an attribute with the stored key that does not fit the
class. -/
def Borrows (h : Hierarchy) (classId wire key : String) : Prop :=
  ∃ name other r, Key.parse key = .qualified name other ∧ h.resolve other name = .ok r ∧
    r.wire = wire ∧ ¬ h.Fits classId r

/-- The key denotes an attribute for the class, and is the key that it is stored under. -/
def Owns (h : Hierarchy) (classId key : String) : Prop :=
  ∃ r, h.resolveKey classId key = .ok r ∧ r.wire = key

/-! ## What fits -/

theorem fits_of_isSubtype (hs : h.isSubtype classId id = true) (hr : h.resolve id name = .ok r) :
    h.Fits classId r := .inr (isSubtype_trans hs (isSubtype_owner hr))

/-- The attributes of a classifier fit every class that extends its concrete class. -/
theorem fits_of_concreteClass {base : String} (hb : h.concreteClass id = .ok base)
    (hs : h.isSubtype classId base = true) (hr : h.resolve id name = .ok r) :
    h.Fits classId r := by
  obtain ⟨c, hc, a, ha, hn, rfl⟩ := exists_owner hr
  cases hm : h.isMixin c.id with
  | true => exact .inl hm
  | false =>
    have hk := kind_of_isMixin_eq_false hm (find?_of_mem_ancestors hc)
    exact .inr (isSubtype_trans hs (isSubtype_of_concreteClass hb hc hk))

/-- A key that borrows nothing denotes an attribute that fits, when it is read for the class itself
or for a classifier whose concrete class this is. -/
theorem fits_of_resolveKey {key : String} (ho : id = classId ∨ h.concreteClass id = .ok classId)
    (hb : ¬ h.Borrows classId r.wire key) (hr : h.resolveKey id key = .ok r) :
    h.Fits classId r := by
  rw [resolveKey] at hr
  cases hp : Key.parse key with
  | plain name =>
    rw [hp] at hr
    rcases ho with rfl | hbase
    · exact .inr (isSubtype_owner hr)
    · obtain ⟨c, hfind, -⟩ := find?_concreteClass hbase
      exact fits_of_concreteClass hbase (isSubtype_refl hfind) hr
  | qualified name other =>
    rw [hp] at hr
    by_cases hf : h.Fits classId r
    · exact hf
    · exact absurd ⟨name, other, r, hp, hr, rfl, hf⟩ hb

/-! ## Attributes that are stored under one key -/

/-- What is stored under the key of an attribute of a mixin is this attribute. -/
theorem eq_of_wire_eq_of_isMixin {r' : ResolvedAttribute} {id' name' : String}
    (hr : h.resolve id name = .ok r) (hm : h.isMixin r.owner = true)
    (hr' : h.resolve id' name' = .ok r') (hw : r'.wire = r.wire) : r' = r := by
  have hkey : r'.key = r.key := by
    rw [← parse_wire_of_resolve hr', hw, parse_wire_of_resolve hr]
  rcases key_of_resolve hr' with ⟨-, hk'⟩ | ⟨hm', -⟩
  · rcases key_of_resolve hr with ⟨hc, -⟩ | ⟨-, hk⟩
    · rw [hm] at hc
      cases hc
    · rw [hk, hk'] at hkey
      cases hkey
  · have hread := resolveKey_wire_of_isMixin hr' hm' id
    rw [hw, resolveKey_wire_of_isMixin hr hm id] at hread
    cases hread
    rfl

/-- A key that names no classifier denotes the attribute that is visible from the class under the
key which it is stored under. -/
theorem eq_of_wire_eq_of_plain {key : String} {r' : ResolvedAttribute}
    (ho : id = classId ∨ h.concreteClass id = .ok classId)
    (hp : ∃ name, Key.parse key = .plain name)
    (hr' : h.resolveKey id key = .ok r') (hr : h.resolve classId name = .ok r)
    (hw : r'.wire = r.wire) : r' = r := by
  have hplain {key : String} (hp : ∃ name, Key.parse key = .plain name) : h.ReadsMixin key := by
    intro name' mixin attr hq
    obtain ⟨name, hp⟩ := hp
    rw [hp] at hq
    cases hq
  have hname : Key.parse name = .plain name :=
    Key.parse_wire_plain (Key.not_mem_of_isIdentifier (identifier_of_resolve hr).1).1
  have hkey : h.resolveKey classId name = .ok r := by
    rw [resolveKey, hname]
    exact hr
  have hread := resolveKey_wire (hplain hp) hr' (ho.imp_left Eq.symm)
  rw [hw, resolveKey_wire (hplain ⟨name, hname⟩) hkey (.inl rfl)] at hread
  cases hread
  rfl

/-! ## What a class owns -/

/-- An attribute that fits a class is owned by it, unless a mixin on the chain of the class declares
another attribute with its name. -/
theorem owns_of_fits (hr : h.resolve id name = .ok r) (hf : h.Fits classId r) :
    h.Owns classId r.wire ∨ ∃ r', h.resolveKey classId r.wire = .ok r' ∧
      h.isMixin r'.owner = true ∧ h.isSubtype classId r'.owner = true ∧ r'.name = r.wire := by
  cases hm : h.isMixin r.owner with
  | true => exact .inl ⟨r, resolveKey_wire_of_isMixin hr hm classId, rfl⟩
  | false =>
    obtain ⟨hwire, hkey⟩ := resolveKey_wire_of_concrete hr hm classId
    have hs : h.isSubtype classId r.owner = true := by
      rcases hf with hmixin | hs
      · rw [hm] at hmixin
        cases hmixin
      · exact hs
    obtain ⟨r', hr'⟩ := exists_resolve_of_isSubtype hs (resolve_owner hr)
    rw [Owns, hkey, hr']
    rcases key_of_resolve hr' with ⟨-, hk⟩ | ⟨hm', -⟩
    · refine .inl ⟨r', rfl, ?_⟩
      rw [ResolvedAttribute.wire, hk, Key.wire, hwire]
    · exact .inr ⟨r', rfl, hm', isSubtype_owner hr', by rw [name_of_resolve hr', hwire]⟩

end TypedDocs.Hierarchy
