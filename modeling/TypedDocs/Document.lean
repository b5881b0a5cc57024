import TypedDocs.Value
import TypedDocs.Fault

/-!
# Documents

A document is a layout with an identity: under `_id` its id, under `_class` its class, and
under `_mixins`, if it is there, the mixins applied to it.  `validate` says whether these
fields have their form; the accessors read what is there in any case.
-/

namespace TypedDocs

/-- A layout with identity fields. -/
abbrev Document := Layout

namespace Document

/-- The key of the id. -/
def idKey : String := "_id"

/-- The key of the class. -/
def classKey : String := "_class"

/-- The key of the applied mixins. -/
def mixinsKey : String := "_mixins"

/-- The class that a document or an embedded object names. -/
def tag? (layout : Layout) : Option String := (layout.get? classKey).bind Value.string?

/-- The flaw of the identity fields, the first of the three. -/
def flaw? (doc : Document) : Option DocumentFlaw :=
  match doc.get? idKey, tag? doc, doc.get? mixinsKey with
  | some (.string _), some _, none => none
  | some (.string _), some _, some (.array _) => none
  | some (.string _), some _, some _ => some .mixinsNotArray
  | some (.string _), none, _ => some .classNotText
  | _, _, _ => some .idNotText

/-- Refuses a document whose identity fields do not have their form. -/
def validate (doc : Document) : Except Fault Unit :=
  match flaw? doc with
  | some flaw => .error (.invalidDocument flaw)
  | none => .ok ()

/-- The id; empty when it is no text. -/
def id (doc : Document) : String := ((doc.get? idKey).bind Value.string?).getD ""

/-- The class; empty when it is no text. -/
def className (doc : Document) : String := (tag? doc).getD ""

/-- The ids of the applied mixins, in the order of their application. -/
def mixins (doc : Document) : List String :=
  match doc.get? mixinsKey with
  | some (.array items) => items.filterMap Value.string?
  | _ => []

/-- Whether a mixin is applied. -/
def hasMixin (doc : Document) (mixin : String) : Bool := (mixins doc).contains mixin

/-- Applies a mixin: it comes last, unless it is there already. -/
def addMixin (doc : Document) (mixin : String) : Document :=
  if hasMixin doc mixin then doc else
    match doc.get? mixinsKey with
    | some (.array items) => doc.insert mixinsKey (.array (items ++ [.string mixin]))
    | _ => doc.insert mixinsKey (.array [.string mixin])

end Document

end TypedDocs
