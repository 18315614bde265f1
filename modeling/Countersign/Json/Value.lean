import Countersign.Json.Document

/-!
# Values

A value is what a document means: the members of an object are unordered and have distinct names,
and numbers are denoted rather than spelled.  Objects keep their members sorted by name, so equal
values are identical and are written alike.
-/

namespace Countersign
namespace Json

/-- A JSON value. -/
inductive Value where
  | null
  | bool (value : Bool)
  | number (value : Number)
  | string (text : String)
  | array (elements : List Value)
  /-- The members, sorted by name without repetition. -/
  | object (members : List (String × Value))
  deriving Repr, Inhabited

namespace Value

/-- The value of the member with a name. -/
def lookup? (name : String) : List (String × Value) → Option Value
  | [] => none
  | (key, value) :: rest => if key = name then some value else lookup? name rest

/-- Puts a member into a sorted list, replacing the one of the same name. -/
def put (name : String) (value : Value) : List (String × Value) → List (String × Value)
  | [] => [(name, value)]
  | (key, old) :: rest =>
    if name = key then (name, value) :: rest
    else if name < key then (name, value) :: (key, old) :: rest
    else (key, old) :: put name value rest

/-- Sorts members by name; of several members with one name the last counts. -/
def ofMembers (members : List (String × Value)) : Value :=
  .object (members.foldl (fun sorted member => put member.1 member.2 sorted) [])

mutual

/-- The document that spells a value. -/
def toDocument : Value → Document
  | .null => .null
  | .bool value => .bool value
  | .number value => .number (Numeral.ofNumber value)
  | .string text => .string text
  | .array elements => .array (toDocuments elements)
  | .object members => .object (toMembers members)

/-- The documents that spell a list of values. -/
def toDocuments : List Value → List Document
  | [] => []
  | element :: rest => toDocument element :: toDocuments rest

/-- The members that spell sorted members. -/
def toMembers : List (String × Value) → Members
  | [] => []
  | (name, value) :: rest => (name, toDocument value) :: toMembers rest

end

mutual

/-- The value of a document; a part that cannot be kept has no meaning and counts as null. -/
def ofDocument : Document → Value
  | .null => .null
  | .bool value => .bool value
  | .number numeral => (numeral.denotation?.map number).getD .null
  | .string text => .string text
  | .array elements => .array (ofDocuments elements)
  | .object members => ofMembers (ofPairs members)
  | .broken _ => .null

/-- The values of a list of documents. -/
def ofDocuments : List Document → List Value
  | [] => []
  | element :: rest => ofDocument element :: ofDocuments rest

/-- The values of members, in the order of the text. -/
def ofPairs : Members → List (String × Value)
  | [] => []
  | (name, document) :: rest => (name, ofDocument document) :: ofPairs rest

end

/-- The value of a document whose containers nest at most `depth` deep; nothing if a part of it
cannot be kept. -/
def ofDocument? (depth : Nat) (document : Document) : Option Value :=
  if document.isKept depth then some (ofDocument document) else none

end Value
end Json
end Countersign
