import Countersign.Json.Numeral

/-!
# Documents

A document is JSON as it is spelled: members keep their order and may repeat, and numbers keep their
digits.  A part that cannot be kept is marked where it stands, so that whoever reads the document
meets it in the order of the text and may pass over the parts it does not use.
-/

namespace Countersign
namespace Json

/-- Why a part of a document cannot be kept. -/
inductive Fault where
  /-- The text stops being JSON here; nothing follows. -/
  | notJson
  /-- A string that denotes no text: a surrogate without its partner, or bytes that are not UTF-8.
  -/
  | notText
  /-- A member whose name denotes no text. -/
  | namelessMember
  deriving DecidableEq, Repr

/-- A JSON document. -/
inductive Document where
  | null
  | bool (value : Bool)
  | number (numeral : Numeral)
  | string (text : String)
  | array (elements : List Document)
  | object (members : List (String × Document))
  /-- A part that cannot be kept. -/
  | broken (fault : Fault)
  deriving Repr, Inhabited

/-- The members of an object in the order of the text. -/
abbrev Members := List (String × Document)

namespace Document

mutual

/-- Whether a document that is passed over is JSON throughout. -/
def isJson : Document → Bool
  | .broken fault => fault ≠ .notJson
  | .array elements => areJson elements
  | .object members => membersAreJson members
  | _ => true

/-- Whether all elements are JSON. -/
def areJson : List Document → Bool
  | [] => true
  | element :: rest => isJson element && areJson rest

/-- Whether the values of all members are JSON. -/
def membersAreJson : List (String × Document) → Bool
  | [] => true
  | (_, value) :: rest => isJson value && membersAreJson rest

end

mutual

/-- Whether a document can be kept whole with `depth` levels of nesting left: all parts are JSON,
all strings are texts, and all numbers lie in the finite range. -/
def isKept (depth : Nat) : Document → Bool
  | .broken _ => false
  | .number numeral => numeral.denotation?.isSome
  | .array elements =>
    match depth with
    | 0 => false
    | depth + 1 => areKept depth elements
  | .object members =>
    match depth with
    | 0 => false
    | depth + 1 => membersAreKept depth members
  | _ => true

/-- Whether all elements can be kept. -/
def areKept (depth : Nat) : List Document → Bool
  | [] => true
  | element :: rest => isKept depth element && areKept depth rest

/-- Whether the values of all members can be kept. -/
def membersAreKept (depth : Nat) : List (String × Document) → Bool
  | [] => true
  | (_, value) :: rest => isKept depth value && membersAreKept depth rest

end

/-- How deeply kept values may nest, counted from the outermost. -/
def maxDepth : Nat := 127

end Document
end Json
end Countersign
