import Countersign.Der.Oid
import Countersign.Signature.Scheme

/-!
# Faults of keys, certificates and signatures

What can go wrong between the bytes of a key and a checked signature, and how each fault is worded.
-/

namespace Countersign

/-- The family of a public key. -/
inductive KeyType where
  | rsa
  | ecdsa (curve : Curve)
  | ed25519
  deriving DecidableEq, Repr

namespace KeyType

/-- The name of a family. -/
def name : KeyType → String
  | rsa => "Rsa"
  | ecdsa curve => s!"Ecdsa({curve.name})"
  | ed25519 => "Ed25519"

end KeyType

/-- What can go wrong with a key, a certificate or a signature. -/
inductive KeyError where
  /-- The bytes are no public key with its algorithm. -/
  | malformedSpki
  /-- A key on an elliptic curve does not name its curve. -/
  | missingCurve
  /-- The parameters of a key on an elliptic curve are no identifier. -/
  | malformedCurve
  /-- The key does not fill its bytes. -/
  | unusedBits
  /-- The bytes are no RSA public key. -/
  | malformedRsaKey
  /-- The algorithm of the key is not known. -/
  | unknownAlgorithm (oid : Der.Oid)
  /-- The curve of the key is not known. -/
  | unknownCurve (oid : Der.Oid)
  /-- The key is of another family than the scheme uses. -/
  | mismatch (keyType : KeyType) (scheme : Scheme)
  /-- The signature does not verify, or the key cannot be used. -/
  | badSignature (scheme : Scheme)
  /-- The bytes are no certificate. -/
  | malformedCertificate
  deriving DecidableEq, Repr

namespace KeyError

/-- The wording of an error. -/
def message : KeyError → String
  | malformedSpki => "Invalid key format: invalid SubjectPublicKeyInfo"
  | missingCurve => "Invalid key format: EC key missing curve parameters"
  | malformedCurve => "Invalid key format: invalid EC curve OID"
  | unusedBits => "Invalid key format: subjectPublicKey has unused bits"
  | malformedRsaKey => "Invalid key format: invalid RSAPublicKey"
  | unknownAlgorithm oid => s!"Unsupported algorithm: public key algorithm OID {oid.dotted}"
  | unknownCurve oid => s!"Unsupported algorithm: EC curve OID {oid.dotted}"
  | mismatch keyType scheme => s!"Invalid key: {keyType.name} key cannot be used with {scheme.name}"
  | badSignature scheme => s!"Verification error: {scheme.name} signature invalid"
  | malformedCertificate => "Certificate error: failed to parse certificate"

end KeyError
end Countersign
