import TypedDocs.Caching.Assignment
import TypedDocs.Proofs.Assignment.Collections
import TypedDocs.Proofs.Caching.Agreement

/-!
# The caches in assignment

With faithful caches an assignment writes what it writes without them, up to the same failure, and
leaves them faithful:

    Agrees h (assign h strict classId target values).run
      (Assignment.assign h strict classId target values)                             (agrees_assign)
-/

namespace TypedDocs

/-! ## Steps without caches -/

namespace Assignment

variable {h : Hierarchy} {strict : Bool} {classId : String}

/-- An embedded object is begun, and then its entries are written. -/
theorem embed_object (fields : Layout) :
    embed h strict classId (.object fields) = startEmbedded h classId fields >>= fun begun =>
      ((assignEntries h strict begun.1 begun.2 fields).mapError AssignmentFailure.fault).map
        .object := by
  rw [embed]
  cases startEmbedded h classId fields with
  | error fault => rfl
  | ok begun =>
    obtain ⟨c, start⟩ := begun
    simp only
    show _ = ((assignEntries h strict c start fields).mapError AssignmentFailure.fault).map
      Value.object
    cases assignEntries h strict c start fields <;> rfl

end Assignment

/-! ## Agreement -/

namespace Caching

variable {ρ : Type} [Pattern.Engine ρ] {h : Hierarchy} {strict : Bool}

/-- An attribute is found, a value is typed, and the entries after it are written. -/
theorem agrees_assignEntries_cons {value : Value} {rest : List (String × Value)} (key : String)
    (hv : ∀ name type, Agrees h (typedValue h strict name type value : Caching ρ Fault Value).run
      (Assignment.typedValue h strict name type value))
    (hr : ∀ classId target,
      Agrees h (assignEntries h strict classId target rest : Caching ρ _ Layout).run
        (Assignment.assignEntries h strict classId target rest))
    (classId : String) (target : Layout) :
    Agrees h (assignEntries h strict classId target ((key, value) :: rest) : Caching ρ _ Layout).run
      (Assignment.assignEntries h strict classId target ((key, value) :: rest)) := by
  rw [assignEntries, Assignment.assignEntries]
  split
  · exact hr _ _
  obtain ⟨owner, name, tagged⟩ := Assignment.readKey h classId target key
  cases tagged with
  | error fault => exact (agrees_ofExcept _).refused
  | ok tagged =>
    refine (agrees_ofExcept (Except.ok tagged)).andThen ?_
    simp only
    have hattr := (agrees_resolve (ρ := ρ) h owner name).adapt (AssignmentFailure.mk · tagged)
    cases hresolve : h.resolve owner name with
    | error fault =>
      rw [hresolve] at hattr
      exact hattr.refused
    | ok attr =>
      rw [hresolve] at hattr
      refine hattr.andThen ?_
      simp only
      have htyped := (hv attr.name attr.type).adapt (AssignmentFailure.mk · tagged)
      cases hvalue : Assignment.typedValue h strict attr.name attr.type value with
      | error fault =>
        rw [hvalue] at htyped
        exact htyped.refused
      | ok typed =>
        rw [hvalue] at htyped
        exact htyped.andThen (hr _ _)

mutual

theorem agrees_typedValue : ∀ (v : Value) {name : String} {type : AttributeType},
    Agrees h (typedValue h strict name type v : Caching ρ Fault Value).run
      (Assignment.typedValue h strict name type v)
  | .array items, name, type => by
    cases type with
    | arrayOf element =>
      cases element with
      | instanceOf c => exact (agrees_embedItems items).map Value.array
      | _ => exact agrees_ok _
    | _ => exact agrees_ok _
  | .object fields, name, type => by
    cases type with
    | arrayOf element =>
      rw [typedValue, Assignment.typedValue]
      split
      · exact agrees_error _
      · exact agrees_ok _
    | instanceOf c =>
      rw [← Assignment.embed_eq_typedValue, Assignment.embed_object]
      exact (agrees_ofExcept _).bindOk fun begun =>
        ((agrees_assignEntries fields).adapt AssignmentFailure.fault).map Value.object
    | bagOf element =>
      cases element with
      | instanceOf c => exact (agrees_embedEntries fields).map Value.object
      | _ => exact agrees_ok _
    | _ => exact agrees_ok _
  | .null, _, _ => agrees_ok _
  | .bool b, name, type | .number b, name, type | .string b, name, type => by
    cases type with
    | arrayOf element =>
      rw [typedValue, Assignment.typedValue]
      · split
        · exact agrees_error _
        · exact agrees_ok _
      all_goals simp
    | _ => exact agrees_ok _

theorem agrees_embed : ∀ (v : Value) {classId : String},
    Agrees h (embed h strict classId v : Caching ρ Fault Value).run
      (Assignment.embed h strict classId v)
  | .object fields, classId => by
    rw [Assignment.embed_object]
    exact (agrees_ofExcept _).bindOk fun begun =>
      ((agrees_assignEntries fields).adapt AssignmentFailure.fault).map Value.object
  | .array _, _ | .null, _ | .bool _, _ | .number _, _ | .string _, _ => agrees_ok _

theorem agrees_embedItems : ∀ (items : List Value) {classId : String},
    Agrees h (embedItems h strict classId items : Caching ρ Fault (List Value)).run
      (Assignment.embedItems h strict classId items)
  | [], _ => agrees_ok _
  | item :: rest, _ =>
    (agrees_embed item).bindOk fun _ => (agrees_embedItems rest).bindOk fun _ => agrees_ok _

theorem agrees_embedEntries : ∀ (entries : List (String × Value)) {classId : String},
    Agrees h (embedEntries h strict classId entries : Caching ρ Fault _).run
      (Assignment.embedEntries h strict classId entries)
  | [], _ => agrees_ok _
  | (_, entry) :: rest, _ =>
    (agrees_embed entry).bindOk fun _ =>
      (agrees_embedEntries rest).bindOk fun _ => agrees_ok _

theorem agrees_assignEntries : ∀ (entries : List (String × Value)) {classId : String}
    {target : Layout},
    Agrees h (assignEntries h strict classId target entries : Caching ρ _ Layout).run
      (Assignment.assignEntries h strict classId target entries)
  | [], _, _ => agrees_ok _
  | (key, value) :: rest, classId, target =>
    agrees_assignEntries_cons key (fun _ _ => agrees_typedValue value)
      (fun _ _ => agrees_assignEntries rest) classId target

end

theorem agrees_assign (classId : String) (target values : Layout) :
    Agrees h (assign h strict classId target values : Caching ρ _ Layout).run
      (Assignment.assign h strict classId target values) := by
  have hdirect : Assignment.assign h strict classId target values =
      (Assignment.withTag h classId target).mapError (AssignmentFailure.mk · target) >>=
        fun tagged => Assignment.assignEntries h strict classId tagged values := by
    rw [Assignment.assign]
    cases Assignment.withTag h classId target <;> rfl
  rw [hdirect]
  exact (agrees_ofExcept _).bindOk fun tagged => agrees_assignEntries values

end Caching

end TypedDocs
