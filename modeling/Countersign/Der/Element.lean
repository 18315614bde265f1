import Countersign.Bytes

/-!
# DER elements

Everything in DER is an element: a tag byte, a length, and as many bytes of content.  Lengths are
definite and spelled in the fewest bytes.  A structure is read from the content of its element, and
nothing may be left over.  An encoding has less than 256 MiB.
-/

namespace Countersign
namespace Der

/-- One element. -/
structure Element where
  /-- The tag byte. -/
  tag : UInt8
  /-- The content. -/
  content : Bytes
  deriving DecidableEq, Repr

namespace Tag

/-! The tag bytes of the types used here. -/

def boolean : UInt8 := 0x01
def integer : UInt8 := 0x02
def bitString : UInt8 := 0x03
def octetString : UInt8 := 0x04
def objectIdentifier : UInt8 := 0x06
def utf8String : UInt8 := 0x0C
def printableString : UInt8 := 0x13
def teletexString : UInt8 := 0x14
def ia5String : UInt8 := 0x16
def utcTime : UInt8 := 0x17
def generalizedTime : UInt8 := 0x18
def sequence : UInt8 := 0x30
def set : UInt8 := 0x31

/-- The universal types that may occur as a value of any type. -/
def universal : List UInt8 :=
  [0x01, 0x02, 0x03, 0x04, 0x05, 0x06, 0x09, 0x0A, 0x0C, 0x12, 0x13, 0x14, 0x15, 0x16, 0x17, 0x18,
    0x1A, 0x1E, 0x30, 0x31]

/-- The tag byte of a type numbered by its context. -/
def context (constructed : Bool) (number : Nat) : UInt8 :=
  UInt8.ofNat ((if constructed then 0xA0 else 0x80) + number)

/-- Whether a byte is the tag of a known universal type, or of any type of another class with a
number below 31. -/
def isKnown (byte : UInt8) : Bool :=
  if byte < 0x40 then universal.contains byte else byte.toNat % 32 ≠ 31

/-- The number of a type numbered by its context. -/
def contextNumber? (byte : UInt8) : Option Nat :=
  if 0x80 ≤ byte ∧ byte < 0xC0 then some (byte.toNat % 32) else none

end Tag

/-- The length that the given bytes spell, if the spelling is the shortest. -/
def longLength? (bytes : Bytes) : Option Nat :=
  let length := Bytes.toNatBE bytes
  match bytes with
  | [] => none
  | first :: _ => if first = 0 ∨ length < 0x80 then none else some length

/-- Reads a length: one byte below 128, or up to four bytes announced by their number. -/
def readLength : Bytes → Option (Nat × Bytes)
  | [] => none
  | first :: rest =>
    if first < 0x80 then some (first.toNat, rest)
    else
      let count := first.toNat - 0x80
      if 1 ≤ count ∧ count ≤ 4 ∧ count ≤ rest.length then
        (longLength? (rest.take count)).map fun length => (length, rest.drop count)
      else none

/-- The greatest number of bytes of an encoding. -/
def maxSize : Nat := 0xFFFFFFF

/-- A reader takes its value from the front of a byte string. -/
abbrev Reader (α : Type) := StateT Bytes Option α

namespace Reader

variable {α : Type}

/-- Reads one element of a known type. -/
def element : Reader Element := fun bytes =>
  match bytes with
  | [] => none
  | tag :: rest =>
    if Tag.isKnown tag then
      match readLength rest with
      | some (length, after) =>
        if length ≤ after.length then some (⟨tag, after.take length⟩, after.drop length) else none
      | none => none
    else none

/-- Reads all of a byte string. -/
def whole (reader : Reader α) (bytes : Bytes) : Option α :=
  match reader bytes with
  | some (value, []) => some value
  | _ => none

/-- Reads all of a byte string that is not too long for an encoding. -/
def encoding (reader : Reader α) (bytes : Bytes) : Option α :=
  if bytes.length ≤ maxSize then whole reader bytes else none

/-- Reads an element with a given tag and gives its content. -/
def tagged (tag : UInt8) : Reader Bytes := do
  let element ← element
  if element.tag = tag then return element.content else failure

/-- Reads a structure from the content of an element with a given tag. -/
def inside (tag : UInt8) (reader : Reader α) : Reader α := do
  let content ← tagged tag
  StateT.lift (whole reader content)

/-- Reads a value of a primitive type from the content of its element. -/
def value (tag : UInt8) (ofContent? : Bytes → Option α) : Reader α := do
  let content ← tagged tag
  StateT.lift (ofContent? content)

/-- The next tag byte, if anything is left. -/
def peek : Reader (Option UInt8) := fun bytes => some (bytes.head?, bytes)

/-- Reads until nothing is left; `fuel` bounds the number of values. -/
def many (reader : Reader α) : (fuel : Nat) → Reader (List α)
  | 0 => fun bytes => if bytes.isEmpty then some ([], []) else none
  | fuel + 1 => fun bytes =>
    if bytes.isEmpty then some ([], [])
    else do
      let (first, rest) ← reader bytes
      let (more, after) ← many reader fuel rest
      return (first :: more, after)

/-- Reads a list from the content of an element with a given tag; every value takes at least one
byte. -/
def listInside (tag : UInt8) (reader : Reader α) : Reader (List α) := do
  let content ← tagged tag
  StateT.lift (whole (many reader content.length) content)

end Reader

/-- The shortest spelling of a length. -/
def lengthBytes (length : Nat) : Bytes :=
  if length < 0x80 then [UInt8.ofNat length]
  else
    let digits := Bytes.digitsBE length
    UInt8.ofNat (0x80 + digits.length) :: digits

/-- The encoding of an element. -/
def Element.encode (element : Element) : Bytes :=
  element.tag :: lengthBytes element.content.length ++ element.content

end Der
end Countersign
