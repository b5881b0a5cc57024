import TypedDocs.Hierarchy.Attributes
import TypedDocs.Memo

/-!
# Kept attributes

The attributes that names denote for a classifier can be kept, as a hierarchy does not change.
Listing the attributes of a classifier asks for each of them in turn.  With or without a memo that
is faithful they are the same (`resolveKept_spec`, `attributesKept_spec`).
-/

namespace TypedDocs.Hierarchy

/-- Attributes kept under the id of a classifier and a name. -/
abbrev KeptAttributes := Memo (String × String) ResolvedAttribute

/-- The nearest attribute with a name on the chain of a classifier, kept or looked up now. -/
def resolveKept (h : Hierarchy) (m : Memo (String × String) ResolvedAttribute) (id name : String) :
    Except Fault ResolvedAttribute × Memo (String × String) ResolvedAttribute :=
  m.find none (fun key => h.resolve key.1 key.2) (id, name)

/-- The attributes that some names denote for a classifier, each kept or looked up now; the first
fault is the answer. -/
def resolveAllKept (h : Hierarchy) (m : KeptAttributes) (id : String) :
    List String → Except Fault (List ResolvedAttribute) × KeptAttributes
  | [] => (.ok [], m)
  | name :: names =>
    match h.resolveKept m id name with
    | (.error fault, m) => (.error fault, m)
    | (.ok r, m) =>
      let (rest, m) := h.resolveAllKept m id names
      (rest.map (r :: ·), m)

/-- The attributes of a classifier, the nearest declarations first, each kept or looked up now. -/
def attributesKept (h : Hierarchy) (m : KeptAttributes) (id : String) :
    Except Fault (List ResolvedAttribute) × KeptAttributes :=
  match h.get id with
  | .error fault => (.error fault, m)
  | .ok _ => h.resolveAllKept m id (namesOf (h.ancestors id))

/-! ## Lemmas -/

/-- The attributes that are kept are those which their names denote. -/
abbrev Remembers (h : Hierarchy) (m : KeptAttributes) : Prop :=
  m.Faithful fun key => h.resolve key.1 key.2

variable {h : Hierarchy} {m : KeptAttributes}

theorem resolveKept_spec (hm : h.Remembers m) (id name : String) :
    (h.resolveKept m id name).1 = h.resolve id name ∧ h.Remembers (h.resolveKept m id name).2 :=
  ⟨Memo.result_find hm, Memo.Faithful.find hm none (id, name)⟩

theorem resolveAllKept_spec (hm : h.Remembers m) (id : String) (names : List String) :
    (h.resolveAllKept m id names).1 = names.mapM (h.resolve id) ∧
      h.Remembers (h.resolveAllKept m id names).2 := by
  induction names generalizing m with
  | nil => exact ⟨rfl, hm⟩
  | cons name names ih =>
    obtain ⟨hresult, hfaithful⟩ := resolveKept_spec hm id name
    rw [resolveAllKept, List.mapM_cons, ← hresult]
    cases hk : h.resolveKept m id name with
    | mk result m' =>
      rw [hk] at hfaithful
      cases result with
      | error fault => exact ⟨rfl, hfaithful⟩
      | ok r =>
        obtain ⟨hrest, hafter⟩ := ih hfaithful
        refine ⟨?_, hafter⟩
        simp only [ok_bind, ← hrest]
        cases (h.resolveAllKept m' id names).1 <;> rfl

theorem attributesKept_spec (hm : h.Remembers m) (id : String) :
    (h.attributesKept m id).1 = h.attributes id ∧ h.Remembers (h.attributesKept m id).2 := by
  rw [attributesKept, attributes]
  cases h.get id with
  | error fault => exact ⟨rfl, hm⟩
  | ok c => exact resolveAllKept_spec hm id (namesOf (h.ancestors id))

end TypedDocs.Hierarchy
