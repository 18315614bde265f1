import Countersign.Der.Oid

/-!
# Integers, bit strings and algorithm identifiers

The primitive types that keys, signatures and certificates are made of.
-/

namespace Countersign
namespace Der

/-- A string of bits. -/
structure BitString where
  /-- How many bits of the last byte do not count. -/
  unused : UInt8
  /-- The bytes. -/
  bytes : Bytes
  deriving DecidableEq, Repr

namespace BitString

/-- The bit string with a given content: fewer than eight unused bits, and none without bytes. -/
def ofContent? : Bytes → Option BitString
  | [] => none
  | unused :: bytes =>
    if unused < 8 ∧ (unused = 0 ∨ bytes ≠ []) then some ⟨unused, bytes⟩ else none

/-- Reads a bit string. -/
def reader : Reader BitString :=
  Reader.value Tag.bitString ofContent?

/-- The encoding of a bit string. -/
def encode (bits : BitString) : Bytes :=
  Element.encode ⟨Tag.bitString, bits.unused :: bits.bytes⟩

/-- The bytes of a bit string that fills them. -/
def whole? (bits : BitString) : Option Bytes :=
  if bits.unused = 0 then some bits.bytes else none

end BitString

/-- Whether the content of an integer is the shortest one. -/
def isMinimalInteger : Bytes → Bool
  | [] => false
  | [_] => true
  | first :: second :: _ =>
    !(first = 0x00 && second < 0x80) && !(first = 0xFF && 0x80 ≤ second)

/-- The digits to the base 256 of a non-negative integer given by its content. -/
def unsigned? : Bytes → Option Bytes
  | [] => none
  | [0x00] => some [0x00]
  | 0x00 :: second :: rest => if second < 0x80 then none else some (second :: rest)
  | first :: rest => if first < 0x80 then some (first :: rest) else none

/-- Reads a non-negative integer as its digits to the base 256. -/
def unsignedReader : Reader Bytes :=
  Reader.value Tag.integer unsigned?

/-- The encoding of a non-negative integer. -/
def encodeNat (value : Nat) : Bytes :=
  let digits := Bytes.digitsBE value
  let content := match digits with
    | first :: _ => if first < 0x80 then digits else 0x00 :: digits
    | [] => [0x00]
  Element.encode ⟨Tag.integer, content⟩

/-- An algorithm with its parameters. -/
structure AlgorithmIdentifier where
  /-- The algorithm. -/
  oid : Oid
  /-- The parameters, of any type. -/
  parameters? : Option Element
  deriving DecidableEq, Repr

namespace AlgorithmIdentifier

/-- Reads the element that follows, if anything is left. -/
def optionalElement : Reader (Option Element) := do
  match ← Reader.peek with
  | none => return none
  | some _ => return some (← Reader.element)

/-- Reads an algorithm. -/
def reader : Reader AlgorithmIdentifier :=
  Reader.inside Tag.sequence do
    let oid ← Oid.reader
    let parameters? ← optionalElement
    return ⟨oid, parameters?⟩

/-- The encoding of an algorithm. -/
def encode (algorithm : AlgorithmIdentifier) : Bytes :=
  Element.encode ⟨Tag.sequence,
    algorithm.oid.encode ++ (match algorithm.parameters? with
      | some parameters => parameters.encode
      | none => [])⟩

end AlgorithmIdentifier
end Der
end Countersign
