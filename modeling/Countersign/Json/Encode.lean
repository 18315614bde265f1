import Countersign.Json.Writer

/-!
# Building documents

Records are written as objects with their members in a fixed order; members that hold nothing may be
left out.
-/

namespace Countersign
namespace Json

/-- A place for a member, which may stay empty. -/
abbrev Slot := Option (String × Document)

namespace Slot

/-- A member that is always written. -/
def always (name : String) (value : Document) : Slot :=
  some (name, value)

/-- A member that is written unless it is empty. -/
def unlessEmpty (empty : Bool) (name : String) (value : Document) : Slot :=
  if empty then none else some (name, value)

/-- A member that is written when there is a value. -/
def of? {α : Type} (name : String) (value? : Option α) (toDocument : α → Document) : Slot :=
  value?.map fun value => (name, toDocument value)

end Slot

namespace Document

/-- The object of the members that are present. -/
def record (slots : List Slot) : Document :=
  .object (slots.filterMap id)

/-- The array of encoded values. -/
def list {α : Type} (toDocument : α → Document) (values : List α) : Document :=
  .array (values.map toDocument)

/-- The document of a value, or null. -/
def orNull {α : Type} (toDocument : α → Document) : Option α → Document
  | some value => toDocument value
  | none => .null

end Document
end Json
end Countersign
