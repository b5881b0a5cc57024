import TypedDocs.Document
import TypedDocs.Hierarchy.Attributes

/-!
# The class of a layout

An embedded object is typed by the class it names when that is a subclass of the declared one,
else by the declared one.  A mixin applies to the documents whose class extends the nearest
class of the mixin.
-/

namespace TypedDocs.Hierarchy

/-- The class an embedded object is typed by. -/
def embeddedClass (h : Hierarchy) (declared : Option String) (layout : Layout) : Option String :=
  match Document.tag? layout, declared with
  | some tag, none => some tag
  | some tag, some c => if h.isSubtype tag c then some tag else some c
  | none, declared => declared

/-- Refuses a mixin that cannot be applied to documents of a class. -/
def checkMixin (h : Hierarchy) (classId mixin : String) : Except Fault Unit := do
  let c ← h.get mixin
  if c.kind ≠ .mixin then throw (.notAMixin mixin)
  let base ← h.concreteClass mixin
  if h.isSubtype classId base then .ok () else .error (.incompatibleMixin mixin classId)

/-- Refuses the first item that is no mixin applicable to a class. -/
def checkMixinItems (h : Hierarchy) (classId : String) : List Value → Except Fault Unit
  | [] => .ok ()
  | item :: rest =>
    match item.string? with
    | none => .error (.invalidDocument .mixinNotText)
    | some mixin => h.checkMixin classId mixin >>= fun _ => h.checkMixinItems classId rest

/-- Refuses a value that is not an array of mixins applicable to a class. -/
def checkMixins (h : Hierarchy) (classId : String) : Value → Except Fault Unit
  | .array items => h.checkMixinItems classId items
  | _ => .error (.invalidDocument .mixinsNotArray)

end TypedDocs.Hierarchy
