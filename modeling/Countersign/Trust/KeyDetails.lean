import Countersign.Digest.Algorithm
import Countersign.Key.Error

/-!
# Declared algorithms of keys

Trust roots declare the algorithm of every key by a name.  A recognized name fixes the kind of
key, its size and the hash function, and with them at most one signature scheme; any other name is
kept as it is written.
-/

namespace Countersign

/-- The padding of RSA signatures. -/
inductive RsaPadding where
  | pkcs1
  | pss
  deriving DecidableEq, Repr

namespace RsaPadding

/-- The name of a padding. -/
def name : RsaPadding → String
  | pkcs1 => "Pkcs1v15"
  | pss => "Pss"

end RsaPadding

/-- A kind of key with its size. -/
inductive KeyAlgorithm where
  /-- RSA with the size of the modulus in bits. -/
  | rsa (modulusBits : Nat) (padding : RsaPadding)
  | ecdsa (curve : Curve)
  /-- Ed25519, over the message or over its digest. -/
  | ed25519 (prehashed : Bool)
  deriving DecidableEq, Repr

namespace KeyAlgorithm

/-- The description of a kind of key in messages. -/
def description : KeyAlgorithm → String
  | rsa modulusBits padding =>
    s!"Rsa \x7b modulus_bits: {modulusBits}, padding: {padding.name} \x7d"
  | ecdsa curve => s!"Ecdsa({curve.name})"
  | ed25519 prehashed => s!"Ed25519 \x7b prehashed: {prehashed} \x7d"

end KeyAlgorithm

/-- An algorithm: a kind of key and a hash function. -/
structure AlgorithmDetails where
  /-- The kind of key. -/
  key : KeyAlgorithm
  /-- The hash function. -/
  hash : HashAlgorithm
  deriving DecidableEq, Repr

namespace AlgorithmDetails

/-- The scheme that checks signatures of an algorithm. -/
def scheme? : AlgorithmDetails → Option Scheme
  | ⟨.rsa _ .pkcs1, .sha2_256⟩ => some .rsaPkcs1Sha256
  | ⟨.rsa _ .pss, .sha2_256⟩ => some .rsaPssSha256
  | ⟨.ecdsa .p256, .sha2_256⟩ => some .ecdsaP256Sha256
  | ⟨.ecdsa .p384, .sha2_384⟩ => some .ecdsaP384Sha384
  | ⟨.ecdsa .p521, .sha2_512⟩ => some .ecdsaP521Sha512
  | ⟨.ed25519 false, _⟩ => some .ed25519
  | _ => none

end AlgorithmDetails

/-- The sizes of RSA keys that can be declared. -/
inductive RsaSize where
  | bits2048
  | bits3072
  | bits4096
  deriving DecidableEq, Repr

namespace RsaSize

/-- The size of the modulus in bits. -/
def bits : RsaSize → Nat
  | bits2048 => 2048
  | bits3072 => 3072
  | bits4096 => 4096

end RsaSize

/-- The declared algorithm of a key. -/
inductive KeyDetails where
  | rsa (padding : RsaPadding) (size : RsaSize)
  | ecdsa (curve : Curve)
  | ed25519
  /-- Ed25519 over the digest of the message. -/
  | ed25519Prehashed
  /-- A name that declares no known algorithm. -/
  | other (name : String)
  deriving DecidableEq, Repr

namespace KeyDetails

/-- The name that declares an algorithm. -/
def name : KeyDetails → String
  | rsa .pkcs1 .bits2048 => "PKIX_RSA_PKCS1V15_2048_SHA256"
  | rsa .pkcs1 .bits3072 => "PKIX_RSA_PKCS1V15_3072_SHA256"
  | rsa .pkcs1 .bits4096 => "PKIX_RSA_PKCS1V15_4096_SHA256"
  | rsa .pss .bits2048 => "PKIX_RSA_PSS_2048_SHA256"
  | rsa .pss .bits3072 => "PKIX_RSA_PSS_3072_SHA256"
  | rsa .pss .bits4096 => "PKIX_RSA_PSS_4096_SHA256"
  | ecdsa .p256 => "PKIX_ECDSA_P256_SHA_256"
  | ecdsa .p384 => "PKIX_ECDSA_P384_SHA_384"
  | ecdsa .p521 => "PKIX_ECDSA_P521_SHA_512"
  | ed25519 => "PKIX_ED25519"
  | ed25519Prehashed => "PKIX_ED25519_PH"
  | other name => name

/-- The algorithms that have a name of their own. -/
def recognized : List KeyDetails :=
  [rsa .pkcs1 .bits2048, rsa .pkcs1 .bits3072, rsa .pkcs1 .bits4096, rsa .pss .bits2048,
    rsa .pss .bits3072, rsa .pss .bits4096, ecdsa .p256, ecdsa .p384, ecdsa .p521, ed25519,
    ed25519Prehashed]

/-- The algorithm that a name declares. -/
def ofName (name : String) : KeyDetails :=
  (recognized.find? fun details => details.name = name).getD (other name)

/-- The algorithm behind a recognized name. -/
def algorithm? : KeyDetails → Option AlgorithmDetails
  | rsa padding size => some ⟨.rsa size.bits padding, .sha2_256⟩
  | ecdsa .p256 => some ⟨.ecdsa .p256, .sha2_256⟩
  | ecdsa .p384 => some ⟨.ecdsa .p384, .sha2_384⟩
  | ecdsa .p521 => some ⟨.ecdsa .p521, .sha2_512⟩
  | ed25519 => some ⟨.ed25519 false, .sha2_512⟩
  | ed25519Prehashed => some ⟨.ed25519 true, .sha2_512⟩
  | other _ => none

end KeyDetails
end Countersign
