import Countersign.Json.Reader

/-!
# Decoding documents

A decoder turns a document into a value of the domain or says why not.  Records are read field by
field; when several members of a record are faulty, the fault that stands first in the document is
the one reported, and a missing member counts as standing at the end.
-/

namespace Countersign
namespace Json

/-- Why a document cannot be decoded. -/
inductive DecodeError where
  /-- The text is not JSON, or the document does not have the expected shape. -/
  | malformed
  /-- A rule of the format refuses the content. -/
  | refused (reason : String)
  deriving DecidableEq, Repr

/-- Turns a document into a value. -/
abbrev Decoder (α : Type) := Document → Except DecodeError α

namespace Decoder

variable {α β : Type}

/-- A string. -/
def string : Decoder String
  | .string text => .ok text
  | _ => .error .malformed

/-- A string that denotes a value by a partial function. -/
def stringVia (read? : String → Option α) : Decoder α
  | .string text =>
    match read? text with
    | some value => .ok value
    | none => .error .malformed
  | _ => .error .malformed

/-- A signed 64-bit integer spelled as a number. -/
def int64 : Decoder Int64
  | .number numeral =>
    match numeral.int64? with
    | some value => .ok (Int64.ofInt value)
    | none => .error .malformed
  | _ => .error .malformed

/-- A value or null. -/
def nullable (decode : Decoder α) : Decoder (Option α)
  | .null => .ok none
  | document => (decode document).map some

/-- A value, for which null stands in when it is the default. -/
def orDefault (default : α) (decode : Decoder α) : Decoder α
  | .null => .ok default
  | document => decode document

/-- An array of values, decoded in order. -/
def list (decode : Decoder α) : Decoder (List α)
  | .array elements => elements.mapM decode
  | _ => .error .malformed

/-- A decoder whose result has to pass a further rule. -/
def andThen (decode : Decoder α) (check : α → Except DecodeError β) : Decoder β :=
  fun document => (decode document).bind check

/-- A choice written as an object of one member whose name selects the alternative. -/
def variant (alternative? : String → Option (Decoder α)) : Decoder α
  | .object ((name, document) :: rest) =>
    match alternative? name with
    | none => .error .malformed
    | some decode =>
      (decode document).bind fun value => if rest.isEmpty then .ok value else .error .malformed
  | _ => .error .malformed

/-- A choice without content: its name as a string, or an object that gives the name a null. -/
def symbol (value? : String → Option α) : Decoder α
  | .string name =>
    match value? name with
    | some value => .ok value
    | none => .error .malformed
  | .object [(name, .null)] =>
    match value? name with
    | some value => .ok value
    | none => .error .malformed
  | _ => .error .malformed

/-- The first of two decoders that succeeds. -/
def orElse (first second : Decoder α) : Decoder α := fun document =>
  match first document with
  | .ok value => .ok value
  | .error _ => second document

end Decoder

/-- Reads a part of a record from its members; a fault carries the position of its member. -/
def Fields (α : Type) := Members → Except (Nat × DecodeError) α

namespace Fields

variable {α β : Type}

/-- Combines two parts of a record; of two faults the earlier counts. -/
def both (first : Fields (α → β)) (second : Fields α) : Fields β := fun members =>
  match first members, second members with
  | .ok f, .ok value => .ok (f value)
  | .error fault, .ok _ => .error fault
  | .ok _, .error fault => .error fault
  | .error fault, .error other => .error (if other.1 < fault.1 then other else fault)

instance : Applicative Fields where
  pure value := fun _ => .ok value
  seq first second := both first (second ())

/-- The members with a name, each with its position. -/
def occurrences (name : String) (members : Members) : List (Nat × Document) :=
  members.zipIdx.filterMap fun (member, position) =>
    if member.1 = name then some (position, member.2) else none

/-- A decoder's result for the member at a position. -/
def «at» (position : Nat) (result : Except DecodeError α) : Except (Nat × DecodeError) α :=
  result.mapError (position, ·)

/-- Reads the member with a name; a repeated member is a fault, and `missing` answers for an absent
one. -/
def member (name : String) (missing : Except DecodeError α) (decode : Decoder α) : Fields α :=
  fun members =>
    match occurrences name members with
    | [] => «at» members.length missing
    | [(position, document)] => «at» position (decode document)
    | (position, document) :: (again, _) :: _ =>
      («at» position (decode document)).bind fun _ => .error (again, .malformed)

/-- A member that has to be present. -/
def required (name : String) (decode : Decoder α) : Fields α :=
  member name (.error .malformed) decode

/-- A member that a default stands in for when it is absent. -/
def optional (name : String) (default : α) (decode : Decoder α) : Fields α :=
  member name (.ok default) decode

/-- A member that may be absent or null. -/
def nullable (name : String) (decode : Decoder α) : Fields (Option α) :=
  member name (.ok none) (Decoder.nullable decode)

/-- Whether a member is acceptable to a reader that does not use it. -/
def isPassedOver : String × Document → Bool
  | (_, .broken .namelessMember) => false
  | (_, document) => document.isJson

/-- The first position whose member fails a test. -/
def firstFailure? (test : String × Document → Bool) (members : Members) : Option Nat :=
  members.findIdx? fun member => !test member

/-- Requires every member with an unknown name to pass a test. -/
def others (names : List String) (test : String × Document → Bool) : Fields Unit := fun members =>
  match firstFailure? (fun member => names.contains member.1 || test member) members with
  | some position => .error (position, .malformed)
  | none => .ok ()

/-- The result without the position of a fault. -/
def result (found : Except (Nat × DecodeError) α) : Except DecodeError α :=
  found.mapError (·.2)

end Fields

namespace Decoder

variable {α : Type}

/-- A record with the given member names: an object, of which members with other names are passed
over, or an array of the members' values in order. -/
def record (names : List String) (fields : Fields α) : Decoder α
  | .object members =>
    Fields.result ((fields <* Fields.others names Fields.isPassedOver) members)
  | .array elements =>
    (Fields.result (fields (names.zip elements))).bind fun value =>
      if elements.length ≤ names.length then .ok value else .error .malformed
  | _ => .error .malformed

end Decoder

/-- Decodes a whole text: nothing may follow its document. -/
def Text.decode {α : Type} (text : Text) (decoder : Decoder α) : Except DecodeError α :=
  (decoder text.document).bind fun value => if text.complete then .ok value else .error .malformed

end Json
end Countersign
