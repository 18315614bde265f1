import Countersign.Signature.Ecdsa
import Countersign.Signature.Ed25519
import Countersign.Signature.Rsa

/-!
# Verification keys

A public key bound to the scheme that it verifies with.  A key that cannot be used fails like a bad
signature, and only when a signature is checked.
-/

namespace Countersign

/-- A public key with its scheme. -/
structure VerificationKey where
  /-- The key itself. -/
  raw : Bytes
  /-- The scheme. -/
  scheme : Scheme
  deriving DecidableEq, Repr

namespace VerificationKey

/-- The key that a public key with its algorithm holds, for a scheme that fits its family. -/
def ofSpki (der : Bytes) (scheme : Scheme) : Except KeyError VerificationKey := do
  let info ← KeyInfo.ofDer der
  if info.keyType.fits scheme then return ⟨info.raw, scheme⟩
  else .error (.mismatch info.keyType scheme)

/-- Whether a byte string is a signature over a message. -/
def accepts (key : VerificationKey) (message signature : Bytes) : Bool :=
  match key.scheme with
  | .ecdsaP256Sha256 => Ecdsa.verify .p256 key.raw message signature
  | .ecdsaP384Sha384 => Ecdsa.verify .p384 key.raw message signature
  | .ecdsaP521Sha512 => Ecdsa.verify .p521 key.raw message signature
  | .ed25519 => Ed25519.verify key.raw message signature
  | .rsaPssSha256 => Rsa.verifyPss key.raw message signature
  | .rsaPkcs1Sha256 => Rsa.verifyPkcs1 key.raw message signature

/-- Checks a signature over a message. -/
def verify (key : VerificationKey) (message signature : Bytes) : Except KeyError Unit :=
  if key.accepts message signature then .ok () else .error (.badSignature key.scheme)

end VerificationKey
end Countersign
