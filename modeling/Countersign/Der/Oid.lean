import Countersign.Der.Element

/-!
# Object identifiers

An identifier is a path of numbers.  Its first two numbers share a byte and each further one is
spelled in bytes of seven bits.  At least three and at most thirty-nine bytes are taken.
-/

namespace Countersign
namespace Der

/-- An object identifier, kept as the content of its element. -/
structure Oid where
  /-- The content of the element. -/
  content : Bytes
  deriving DecidableEq, Repr

namespace Oid

/-- The numbers that do not fit 32 bits begin here. -/
def arcLimit : Nat := 0x100000000

/-- The state of reading one number. -/
structure Partial where
  /-- The bytes read so far. -/
  count : Nat := 0
  /-- The number read so far, modulo `arcLimit`. -/
  value : Nat := 0

/-- Reads the numbers after the first two: a number takes four bytes, or five if the last is below
sixteen. -/
def readArcs (state : Partial) : Bytes → Option (List Nat)
  | [] => if state.count = 0 then some [] else none
  | byte :: rest =>
    let count := state.count + 1
    if 4 < count ∧ 0x10 ≤ byte then none
    else
      let value := (state.value * 128 + byte.toNat % 128) % arcLimit
      if byte < 0x80 then (readArcs {} rest).map (value :: ·) else readArcs ⟨count, value⟩ rest

/-- The numbers of an identifier given by the content of its element. -/
def arcs? (content : Bytes) : Option (List Nat) :=
  if 3 ≤ content.length ∧ content.length ≤ 39 then
    match content with
    | first :: rest =>
      if first < 120 then
        (readArcs {} rest).map fun arcs => first.toNat / 40 :: first.toNat % 40 :: arcs
      else none
    | [] => none
  else none

/-- The identifier with a given content. -/
def ofContent? (content : Bytes) : Option Oid :=
  if (arcs? content).isSome then some ⟨content⟩ else none

/-- The bytes of a number after the first two; `isMarked` tells that another byte follows. -/
def arcBytes (isMarked : Bool) (value : Nat) : Bytes :=
  let byte := UInt8.ofNat (value % 128 + if isMarked then 128 else 0)
  if value < 128 then [byte] else arcBytes true (value / 128) ++ [byte]
termination_by value
decreasing_by exact Nat.div_lt_self (by omega) (by omega)

/-- The identifier of given numbers. -/
def ofArcs : List Nat → Oid
  | first :: second :: rest =>
    ⟨UInt8.ofNat (first * 40 + second) :: rest.flatMap (arcBytes false)⟩
  | _ => ⟨[]⟩

/-- The numbers joined by dots. -/
def dotted (oid : Oid) : String :=
  ".".intercalate (((arcs? oid.content).getD []).map toString)

/-- Reads an identifier. -/
def reader : Reader Oid :=
  Reader.value Tag.objectIdentifier ofContent?

/-- The encoding of an identifier. -/
def encode (oid : Oid) : Bytes :=
  Element.encode ⟨Tag.objectIdentifier, oid.content⟩

/-- The identifier of keys on elliptic curves. -/
def ecPublicKey : Oid := ⟨[0x2A, 0x86, 0x48, 0xCE, 0x3D, 0x02, 0x01]⟩

/-- The identifier of RSA keys. -/
def rsaEncryption : Oid := ⟨[0x2A, 0x86, 0x48, 0x86, 0xF7, 0x0D, 0x01, 0x01, 0x01]⟩

/-- The identifier of Ed25519 keys. -/
def ed25519 : Oid := ⟨[0x2B, 0x65, 0x70]⟩

/-- The identifier of the curve P-256. -/
def p256 : Oid := ⟨[0x2A, 0x86, 0x48, 0xCE, 0x3D, 0x03, 0x01, 0x07]⟩

/-- The identifier of the curve P-384. -/
def p384 : Oid := ⟨[0x2B, 0x81, 0x04, 0x00, 0x22]⟩

/-- The identifier of the curve P-521. -/
def p521 : Oid := ⟨[0x2B, 0x81, 0x04, 0x00, 0x23]⟩

end Oid
end Der
end Countersign
