import Countersign.Key.Pem
import Countersign.Signature.VerificationKey

/-!
# Key pairs

A secret that signs, with the public key that verifies.  The secret of a pair is made from a seed,
and signing the same message twice gives the same signature.
-/

namespace Countersign

open Der

/-- The kinds of key pairs. -/
inductive KeyPairKind where
  | ecdsa (curve : Curve)
  | ed25519
  deriving DecidableEq, Repr

namespace KeyPairKind

/-- The scheme of a kind. -/
def scheme : KeyPairKind → Scheme
  | ecdsa curve => Scheme.ecdsa curve
  | ed25519 => .ed25519

/-- The algorithm that names a kind of public key. -/
def algorithm : KeyPairKind → AlgorithmIdentifier
  | ecdsa curve =>
    ⟨Oid.ecPublicKey, some ⟨Tag.objectIdentifier, curve.oid.content⟩⟩
  | ed25519 => ⟨Oid.ed25519, none⟩

/-- The encoding of a public key of a kind around the key itself. -/
def publicKeyDer (kind : KeyPairKind) (raw : Bytes) : Bytes :=
  Spki.encode ⟨kind.algorithm, ⟨0, raw⟩⟩

end KeyPairKind

/-- A key pair. -/
structure KeyPair where
  /-- The kind. -/
  kind : KeyPairKind
  /-- The seed of the secret. -/
  seed : Bytes
  deriving DecidableEq, Repr

namespace KeyPair

/-- The secret number of a pair on a curve, from one up to below the order. -/
def secret (curve : Curve) (seed : Bytes) : Nat :=
  Bytes.toNatBE (sha512 seed) % ((Ecdsa.params curve).order - 1) + 1

/-- The public key itself. -/
def publicKey (pair : KeyPair) : Bytes :=
  match pair.kind with
  | .ecdsa curve => Ecdsa.publicKey curve (secret curve pair.seed)
  | .ed25519 => Ed25519.publicKey pair.seed

/-- The public key with its algorithm. -/
def publicKeyDer (pair : KeyPair) : Bytes :=
  pair.kind.publicKeyDer pair.publicKey

/-- The public key as text. -/
def publicKeyPem (pair : KeyPair) : String :=
  Pem.publicKey pair.publicKeyDer

/-- Signs a message. -/
def sign (pair : KeyPair) (message : Bytes) : Bytes :=
  match pair.kind with
  | .ecdsa curve => Ecdsa.sign curve (secret curve pair.seed) message
  | .ed25519 => Ed25519.sign pair.seed message

/-- The key that verifies what the pair signs. -/
def verificationKey (pair : KeyPair) : VerificationKey :=
  ⟨pair.publicKey, pair.kind.scheme⟩

end KeyPair
end Countersign
