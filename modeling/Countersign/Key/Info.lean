import Countersign.Key.Error
import Countersign.Key.Spki

/-!
# What a public key says about itself

The family of a key is read from its algorithm, and for elliptic curves from the identifier in the
parameters; RSA keys also tell the size of their modulus.  The remaining bytes are handed on as they
are.
-/

namespace Countersign

open Der

/-- A public key, taken apart. -/
structure KeyInfo where
  /-- The family. -/
  keyType : KeyType
  /-- The key itself. -/
  raw : Bytes
  /-- The size of the modulus of an RSA key, in bits. -/
  modulusBits? : Option Nat
  deriving DecidableEq, Repr

/-- The number of binary digits of a byte; none for zero. -/
def byteBits (byte : UInt8) : Nat :=
  if byte = 0 then 0 else byte.toNat.log2 + 1

/-- The number of binary digits of a number given by its digits to the base 256, of which the
first is zero only for the number zero. -/
def bitLength : Bytes → Nat
  | [] => 0
  | first :: rest => rest.length * 8 + byteBits first

/-- The number of zeros in front of the other binary digits of a byte, of which there are eight. -/
def leadingZeros (byte : UInt8) : UInt32 :=
  UInt32.ofNat ((List.range 8).takeWhile fun place => !byte.toNat.testBit (7 - place)).length

/-- The number of binary digits of a number given by its digits to the base 256, reckoned in words:
eight for each byte, less the zeros in front.  There is none if a step of the reckoning goes beyond
what a word holds. -/
def reckonedBitLength? : Bytes → Option UInt32
  | [] => some 0
  | first :: rest =>
    let length := UInt32.ofNat (first :: rest).length
    if length.toNat * 8 < UInt32.size ∧ leadingZeros first ≤ length * 8 then
      some (length * 8 - leadingZeros first)
    else none

/-- An RSA public key. -/
structure RsaPublicKey where
  /-- The modulus, as digits to the base 256. -/
  modulus : Bytes
  /-- The exponent, as digits to the base 256. -/
  exponent : Bytes
  deriving DecidableEq, Repr

namespace RsaPublicKey

/-- Reads an RSA public key. -/
def reader : Reader RsaPublicKey :=
  Reader.inside Tag.sequence do
    let modulus ← unsignedReader
    let exponent ← unsignedReader
    return ⟨modulus, exponent⟩

/-- The RSA public key that a byte string encodes. -/
def ofDer? (der : Bytes) : Option RsaPublicKey :=
  Reader.encoding reader der

/-- The size of the modulus in the encoding of an RSA public key, in bits. -/
def modulusBits (der : Bytes) : Except KeyError Nat :=
  match ofDer? der with
  | some key => .ok (bitLength key.modulus)
  | none => .error .malformedRsaKey

end RsaPublicKey

namespace Curve

/-- The identifier of a curve. -/
def oid : Curve → Oid
  | p256 => Oid.p256
  | p384 => Oid.p384
  | p521 => Oid.p521

/-- The curve with an identifier. -/
def ofOid (oid : Oid) : Except KeyError Curve :=
  if oid = Oid.p256 then .ok p256
  else if oid = Oid.p384 then .ok p384
  else if oid = Oid.p521 then .ok p521
  else .error (.unknownCurve oid)

end Curve

namespace KeyType

/-- The family that an algorithm names.  The curve is read from the content of the parameters,
whatever their type. -/
def ofAlgorithm (algorithm : AlgorithmIdentifier) : Except KeyError KeyType :=
  if algorithm.oid = Oid.ed25519 then .ok ed25519
  else if algorithm.oid = Oid.rsaEncryption then .ok rsa
  else if algorithm.oid = Oid.ecPublicKey then
    match algorithm.parameters? with
    | none => .error .missingCurve
    | some parameters =>
      match Oid.ofContent? parameters.content with
      | none => .error .malformedCurve
      | some oid => (Curve.ofOid oid).map ecdsa
  else .error (.unknownAlgorithm algorithm.oid)

/-- The usual scheme of a family; RSA keys do not tell their padding. -/
def defaultScheme : KeyType → Scheme
  | rsa => .rsaPkcs1Sha256
  | ecdsa curve => Scheme.ecdsa curve
  | ed25519 => .ed25519

/-- Whether a family of keys fits a scheme. -/
def fits (keyType : KeyType) (scheme : Scheme) : Bool :=
  match keyType with
  | rsa => scheme.isRsa
  | other => other.defaultScheme = scheme

end KeyType

namespace KeyInfo

/-- Takes a public key apart. -/
def ofSpki (spki : Spki) : Except KeyError KeyInfo := do
  let keyType ← KeyType.ofAlgorithm spki.algorithm
  match spki.key.whole? with
  | none => .error .unusedBits
  | some raw =>
    match keyType with
    | .rsa => return ⟨keyType, raw, some (← RsaPublicKey.modulusBits raw)⟩
    | _ => return ⟨keyType, raw, none⟩

/-- Takes the encoding of a public key apart. -/
def ofDer (der : Bytes) : Except KeyError KeyInfo :=
  match Spki.ofDer? der with
  | some spki => ofSpki spki
  | none => .error .malformedSpki

/-- The usual scheme of a key. -/
def defaultScheme (info : KeyInfo) : Scheme :=
  info.keyType.defaultScheme

end KeyInfo
end Countersign
