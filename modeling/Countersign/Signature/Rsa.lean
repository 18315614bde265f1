import Countersign.Digest.Sha2
import Countersign.Key.Envelope
import Countersign.Key.Info
import Countersign.Signature.Modular

/-!
# RSA signatures with SHA-256

The signature raised to the public exponent gives an encoded digest.  The older encoding is a fixed
text, compared as a whole; the newer one holds a salt of 32 bytes, which is recovered and hashed
again.
-/

namespace Countersign
namespace Rsa

/-- A usable public key. -/
structure Key where
  /-- The modulus. -/
  modulus : Nat
  /-- The exponent. -/
  exponent : Nat
  /-- The size of the modulus in bits. -/
  bits : Nat
  deriving DecidableEq, Repr

/-- The least size of a modulus in bits. -/
def minBits : Nat := 2048

/-- The greatest size of a modulus in bits. -/
def maxBits : Nat := 8192

/-- The usable public key that a byte string encodes: an odd modulus of acceptable size, and an odd
exponent from three up to 33 bits. -/
def Key.ofDer? (der : Bytes) : Option Key := do
  let key ← RsaPublicKey.ofDer? der
  let bits := bitLength key.modulus
  let modulus := Bytes.toNatBE key.modulus
  let exponent := Bytes.toNatBE key.exponent
  if minBits ≤ bits ∧ bits ≤ maxBits ∧ modulus % 2 = 1 ∧ 3 ≤ exponent ∧ exponent % 2 = 1 ∧
      exponent < Nat.pow 2 33 then
    some ⟨modulus, exponent, bits⟩
  else none

/-- The older identifier of RSA keys. -/
def oldAlgorithm : Der.Oid := ⟨[0x55, 0x08, 0x01, 0x01]⟩

/-- The identifier of RSA keys for the newer encoding only. -/
def pssAlgorithm : Der.Oid := ⟨[0x2A, 0x86, 0x48, 0x86, 0xF7, 0x0D, 0x01, 0x01, 0x0A]⟩

/-- The usable public key that a key denotes: one by itself, or one in an envelope, whose parameters
do not count. -/
def publicKey? (key : Bytes) : Option Key :=
  match Key.ofDer? key, KeyEnvelope.ofBytes? key with
  | some found, _ => some found
  | none, some envelope =>
    if envelope.algorithm = Der.Oid.rsaEncryption.content ∨
        envelope.algorithm = oldAlgorithm.content then
      Key.ofDer? envelope.key
    else none
  | none, none => none

/-- The usable public key for the newer encoding; an envelope may be for that encoding only. -/
def pssPublicKey? (key : Bytes) : Option Key :=
  match publicKey? key, KeyEnvelope.keyFor? pssAlgorithm key with
  | some found, _ => some found
  | none, some inner => Key.ofDer? inner
  | none, none => none

/-- The number of bytes of a modulus. -/
def Key.length (key : Key) : Nat :=
  (key.bits + 7) / 8

/-- The encoded digest that a signature recovers, as a number. -/
def recover? (key : Key) (signature : Bytes) : Option Nat :=
  let value := Bytes.toNatBE signature
  if signature.length = key.length ∧ value < key.modulus then
    some (Modular.pow key.modulus value key.exponent)
  else none

/-- What stands in front of a SHA-256 digest in the older encoding. -/
def digestHeader : Bytes :=
  [0x30, 0x31, 0x30, 0x0D, 0x06, 0x09, 0x60, 0x86, 0x48, 0x01, 0x65, 0x03, 0x04, 0x02, 0x01, 0x05,
    0x00, 0x04, 0x20]

/-- The older encoding of a message's digest in a given number of bytes. -/
def encodePkcs1 (length : Nat) (message : Bytes) : Bytes :=
  let tail := digestHeader ++ sha256 message
  [0x00, 0x01] ++ List.replicate (length - tail.length - 3) 0xFF ++ [0x00] ++ tail

/-- Whether a byte string is a signature in the older encoding. -/
def verifyPkcs1 (key message signature : Bytes) : Bool :=
  match publicKey? key with
  | none => false
  | some key =>
    match recover? key signature with
    | none => false
    | some value => Bytes.ofNatBE key.length value = encodePkcs1 key.length message

/-- The number of bytes of a SHA-256 digest, and of the salt. -/
def digestLength : Nat := 32

/-- A mask of a given length made from a seed by hashing it with a counter. -/
def mask (seed : Bytes) (length : Nat) : Bytes :=
  ((List.range ((length + digestLength - 1) / digestLength)).flatMap fun counter =>
    sha256 (seed ++ Bytes.ofNatBE 4 counter)).take length

/-- Whether an encoded digest of a given size in bits holds the digest of a message. -/
def holdsDigest (bits : Nat) (encoded message : Bytes) : Bool :=
  let maskedLength := encoded.length - digestLength - 1
  let masked := encoded.take maskedLength
  let digest := (encoded.drop maskedLength).take digestLength
  let freeBits := 8 * encoded.length - bits
  let data := (masked.zip (mask digest maskedLength)).map fun (a, b) => a ^^^ b
  let data := match data with
    | first :: rest => UInt8.ofNat (first.toNat % Nat.pow 2 (8 - freeBits)) :: rest
    | [] => []
  let zeros := maskedLength - digestLength - 1
  let salt := data.drop (zeros + 1)
  encoded.drop (maskedLength + digestLength) = [0xBC] &&
    (masked.head?.getD 0).toNat < Nat.pow 2 (8 - freeBits) &&
    data.take zeros = List.replicate zeros 0 && (data.drop zeros).head? = some 0x01 &&
    sha256 (List.replicate 8 0 ++ sha256 message ++ salt) = digest

/-- Whether a byte string is a signature in the newer encoding. -/
def verifyPss (key message signature : Bytes) : Bool :=
  match pssPublicKey? key with
  | none => false
  | some key =>
    match recover? key signature with
    | none => false
    | some value =>
      let bits := key.bits - 1
      let length := (bits + 7) / 8
      value < Nat.pow 2 (8 * length) && holdsDigest bits (Bytes.ofNatBE length value) message

end Rsa
end Countersign
