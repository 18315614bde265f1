import Countersign.Json.Value

/-!
# Patching values

A patch is a value laid over another one.  Objects are patched member by member and arrays of one
length element by element; everywhere else the patch stands.  What the patch does not mention stays.
-/

namespace Countersign
namespace Json
namespace Value

mutual

/-- The base with a patch laid over it. -/
def patch : (base overlay : Value) → Value
  | .object base, .object overlay => .object (patchMembers base overlay)
  | .array base, .array overlay =>
    if base.length = overlay.length then .array (patchElements base overlay) else .array overlay
  | _, overlay => overlay

/-- Patches element by element. -/
def patchElements : (base overlay : List Value) → List Value
  | first :: base, value :: overlay => patch first value :: patchElements base overlay
  | _, _ => []

/-- Patches the members that the overlay names, one after another. -/
def patchMembers (base : List (String × Value)) : List (String × Value) → List (String × Value)
  | [] => base
  | (name, change) :: overlay =>
    let value := match lookup? name base with
      | some old => patch old change
      | none => change
    patchMembers (put name value base) overlay

end

end Value
end Json
end Countersign
