/-!
# Signature schemes

A scheme fixes the kind of key, the hash function and the form of the signature.
-/

namespace Countersign

/-- The curves of ECDSA keys. -/
inductive Curve where
  | p256
  | p384
  | p521
  deriving DecidableEq, Repr

namespace Curve

/-- The name of a curve. -/
def name : Curve → String
  | p256 => "P256"
  | p384 => "P384"
  | p521 => "P521"

end Curve

/-- The signature schemes. -/
inductive Scheme where
  | ecdsaP256Sha256
  | ecdsaP384Sha384
  | ecdsaP521Sha512
  | ed25519
  | rsaPssSha256
  | rsaPkcs1Sha256
  deriving DecidableEq, Repr

namespace Scheme

/-- All schemes. -/
def all : List Scheme :=
  [ecdsaP256Sha256, ecdsaP384Sha384, ecdsaP521Sha512, ed25519, rsaPssSha256, rsaPkcs1Sha256]

/-- The name of a scheme. -/
def name : Scheme → String
  | ecdsaP256Sha256 => "ECDSA_P256_SHA256"
  | ecdsaP384Sha384 => "ECDSA_P384_SHA384"
  | ecdsaP521Sha512 => "ECDSA_P521_SHA512"
  | ed25519 => "ED25519"
  | rsaPssSha256 => "RSA_PSS_SHA256"
  | rsaPkcs1Sha256 => "RSA_PKCS1_SHA256"

/-- The scheme with a name. -/
def ofName? (name : String) : Option Scheme :=
  all.find? fun scheme => scheme.name = name

/-- Whether a scheme uses an RSA key. -/
def isRsa : Scheme → Bool
  | rsaPssSha256 | rsaPkcs1Sha256 => true
  | _ => false

/-- The scheme of ECDSA keys on a curve. -/
def ecdsa : Curve → Scheme
  | .p256 => ecdsaP256Sha256
  | .p384 => ecdsaP384Sha384
  | .p521 => ecdsaP521Sha512

end Scheme
end Countersign
