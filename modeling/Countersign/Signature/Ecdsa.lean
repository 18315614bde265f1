import Countersign.Der.Primitive
import Countersign.Digest.Sha2
import Countersign.Key.Envelope
import Countersign.Signature.CurveParameters
import Countersign.Signature.Scheme

/-!
# ECDSA

A signature is a pair of numbers in DER.  Either of the two values that differ by the sign of the
second number is accepted.
-/

namespace Countersign
namespace Ecdsa

open Der

/-- The parameters of a curve. -/
def params : Curve → Weierstrass.Params
  | .p256 => Weierstrass.p256
  | .p384 => Weierstrass.p384
  | .p521 => Weierstrass.p521

/-- The hash function that goes with a curve. -/
def hash : Curve → Bytes → Bytes
  | .p256 => sha256
  | .p384 => sha384
  | .p521 => sha512

/-- A signature. -/
structure Signature where
  /-- The first coordinate of the nonce point, modulo the order. -/
  r : Nat
  /-- The proof that the signer knows the key. -/
  s : Nat
  deriving DecidableEq, Repr

namespace Signature

/-- Reads a signature. -/
def reader : Reader Signature :=
  Reader.inside Tag.sequence do
    let r ← unsignedReader
    let s ← unsignedReader
    return ⟨Bytes.toNatBE r, Bytes.toNatBE s⟩

/-- The signature that a byte string encodes. -/
def ofDer? (der : Bytes) : Option Signature :=
  Reader.whole reader der

/-- The encoding of a signature. -/
def encode (signature : Signature) : Bytes :=
  Element.encode ⟨Tag.sequence, encodeNat signature.r ++ encodeNat signature.s⟩

end Signature

/-- The number that a message is signed by: as many leading bits of its digest as the order has. -/
def messageNumber (curve : Curve) (message : Bytes) : Nat :=
  let digest := hash curve message
  let excess := digest.length * 8 - ((params curve).order.log2 + 1)
  Bytes.toNatBE digest >>> excess

/-- Whether a pair of numbers is a signature over a message for a public point. -/
def verifies (curve : Curve) (key : Weierstrass.Point) (message : Bytes) (signature : Signature) :
    Bool :=
  let parameters := params curve
  let order := parameters.order
  if 0 < signature.r ∧ signature.r < order ∧ 0 < signature.s ∧ signature.s < order then
    let inverse := Modular.inverse order signature.s
    let first := Modular.mul order (messageNumber curve message) inverse
    let second := Modular.mul order signature.r inverse
    let sum := Weierstrass.add parameters
      (Weierstrass.multiply parameters first parameters.base)
      (Weierstrass.multiply parameters second key)
    match Weierstrass.affine? parameters sum with
    | some (x, _) => x % order = signature.r
    | none => false
  else false

/-- The public point that a key denotes: an encoded point, or one in an envelope for the curve. -/
def publicPoint? (curve : Curve) (key : Bytes) : Option Weierstrass.Point :=
  match KeyEnvelope.ofBytes? key with
  | some envelope =>
    if envelope.algorithm = Oid.ecPublicKey.content ∧
        CurveParameters.describe curve (params curve) envelope.parameters then
      Weierstrass.decode? (params curve) envelope.key
    else none
  | none => Weierstrass.decode? (params curve) key

/-- Whether a byte string is a signature over a message for the point that a key denotes. -/
def verify (curve : Curve) (key message signature : Bytes) : Bool :=
  match publicPoint? curve key, Signature.ofDer? signature with
  | some point, some signature => verifies curve point message signature
  | _, _ => false

/-- The public point of a secret number. -/
def publicKey (curve : Curve) (secret : Nat) : Bytes :=
  let parameters := params curve
  Weierstrass.encode parameters (Weierstrass.multiply parameters secret parameters.base)

/-- Signs a message with a secret number; the nonce is derived from both. -/
def sign (curve : Curve) (secret : Nat) (message : Bytes) : Bytes :=
  let parameters := params curve
  let order := parameters.order
  let seed := sha512 (Bytes.ofNatBE parameters.fieldBytes secret ++ message)
  let nonce := Bytes.toNatBE seed % (order - 1) + 1
  let point := Weierstrass.multiply parameters nonce parameters.base
  let r := ((Weierstrass.affine? parameters point).getD (0, 0)).1 % order
  let inverse := Modular.inverse order nonce
  let s := Modular.mul order inverse (messageNumber curve message + r * secret)
  Signature.encode ⟨r, s⟩

end Ecdsa
end Countersign
