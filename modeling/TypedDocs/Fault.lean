import TypedDocs.Pattern.Option

/-!
# Faults

The causes for which a classifier, a document or an operation is refused, and the message of
each.
-/

namespace TypedDocs

/-- What a value was expected to be. -/
inductive Expectation where
  | array
  | embeddedObject
  | arrayOrEmbeddedObject
deriving DecidableEq, Repr

/-- The expectation in words. -/
def Expectation.describe : Expectation → String
  | .array => "an array"
  | .embeddedObject => "an embedded object"
  | .arrayOrEmbeddedObject => "an array or embedded object"

/-- Why a layout is no document of the store. -/
inductive DocumentFlaw where
  | idNotText
  | classNotText
  | mixinsNotArray
  | mixinNotText
  | classIsMixin (id : String) (mixin : String)
  | idDiffers (id : String)
  | classDiffers (classId : String)
  | fixedKey (key : String)
  | mixinsBelowRoot
deriving DecidableEq, Repr

/-- The flaw in words. -/
def DocumentFlaw.describe : DocumentFlaw → String
  | .idNotText => "`_id` must be a string"
  | .classNotText => "`_class` must be a string"
  | .mixinsNotArray => "`_mixins` must be an array"
  | .mixinNotText => "`_mixins` entries must be strings"
  | .classIsMixin id mixin => "`_class` of " ++ id ++ " names mixin " ++ mixin
  | .idDiffers id => "`_id` in values does not match " ++ id
  | .classDiffers classId => "`_class` in values does not match " ++ classId
  | .fixedKey key => "`" ++ key ++ "` cannot be changed by set"
  | .mixinsBelowRoot => "`_mixins` only applies to the document root"

/-- Why a classifier, a document or an operation is refused. -/
inductive Fault where
  | notFound (id : String)
  | noConcreteClass (id : String)
  | attributeNotFound (classId : String) (name : String)
  | noDomain (classId : String)
  | patternRequired (key : String)
  | selectorMismatch (key : String)
  | wrongType (name : String) (expected : Expectation)
  | objectNotFound
  | alreadyExists (id : String)
  | duplicateAttribute (classId : String) (name : String)
  | invalidIdentifier (text : String)
  | cyclicInheritance (id : String)
  | notAMixin (id : String)
  | incompatibleMixin (mixin : String) (classId : String)
  | invalidPattern (pattern : String) (reason : PatternError)
  | invalidDocument (flaw : DocumentFlaw)
deriving DecidableEq, Repr

/-- The fault in words. -/
def Fault.message : Fault → String
  | .notFound id => "not found: " ++ id
  | .noConcreteClass id => "not found: concrete class of " ++ id
  | .attributeNotFound classId name =>
    "attribute `" ++ name ++ "` not found on `" ++ classId ++ "`"
  | .noDomain classId => "no domain declared for `" ++ classId ++ "`"
  | .patternRequired key => "selector segment `" ++ key ++ "` requires a pattern"
  | .selectorMismatch key => "selector pattern for `" ++ key ++ "` matched nothing"
  | .wrongType name expected => "attribute `" ++ name ++ "` is not " ++ expected.describe
  | .objectNotFound => "selector did not resolve to an object"
  | .alreadyExists id => "already exists: " ++ id
  | .duplicateAttribute classId name => "already exists: " ++ classId ++ "." ++ name
  | .invalidIdentifier text => "invalid identifier `" ++ text ++ "`"
  | .cyclicInheritance id => "cyclic extends chain at `" ++ id ++ "`"
  | .notAMixin id => "classifier `" ++ id ++ "` is not a mixin"
  | .incompatibleMixin mixin classId =>
    "mixin `" ++ mixin ++ "` cannot be applied to class `" ++ classId ++ "`"
  | .invalidPattern pattern reason => "invalid $regex `" ++ pattern ++ "`: " ++ reason.describe
  | .invalidDocument flaw => "invalid document: " ++ flaw.describe

/-! ## Sequences that may fail -/

section Sequences

variable {ε α β : Type}

@[simp] theorem throw_eq_error (e : ε) : (throw e : Except ε α) = .error e := rfl

@[simp] theorem pure_eq_ok (a : α) : (pure a : Except ε α) = .ok a := rfl

@[simp] theorem error_bind (e : ε) (f : α → Except ε β) : Except.error e >>= f = .error e := rfl

@[simp] theorem ok_bind (a : α) (f : α → Except ε β) : Except.ok a >>= f = f a := rfl

theorem bind_eq_ok_iff {x : Except ε α} {f : α → Except ε β} {b : β} :
    x >>= f = .ok b ↔ ∃ a, x = .ok a ∧ f a = .ok b := by
  cases x with
  | error e =>
    show Except.error e = .ok b ↔ _
    simp
  | ok a =>
    show f a = .ok b ↔ _
    simp

end Sequences

end TypedDocs
