import Countersign.Signature.VerificationKey
import Countersign.Trust.Validity

/-!
# Verifiers with a period

A verifier is a key together with the period in which its signatures are trusted.  Whether a
signature verifies and whether its time is right are separate questions.
-/

namespace Countersign

/-- A key with its period of validity. -/
structure Verifier where
  /-- The key. -/
  key : VerificationKey
  /-- The period. -/
  validity : ValidityPeriod
  deriving DecidableEq

namespace Verifier

/-- Checks a signature over a message. -/
def verify (verifier : Verifier) (message signature : Bytes) : Except TrustError Unit :=
  (verifier.key.verify message signature).mapError .signature

/-- Whether the key is trusted at an instant. -/
def isValidAt (verifier : Verifier) (time : Instant) : Bool :=
  verifier.validity.contains time

end Verifier

namespace AlgorithmDetails

/-- The scheme that checks signatures of an algorithm. -/
def scheme (algorithm : AlgorithmDetails) : Except TrustError Scheme :=
  match algorithm.scheme? with
  | some scheme => .ok scheme
  | none => .error (.algorithm (.noScheme algorithm))

/-- Checks the size of an RSA key against the algorithm; other keys have no size to check. -/
def checkSize (algorithm : AlgorithmDetails) (info : KeyInfo) : Except KeyFault Unit :=
  match algorithm.key, info.modulusBits? with
  | .rsa declared _, some found =>
    if found = declared then .ok () else .error (.modulusSize declared found)
  | _, _ => .ok ()

/-- The key that the encoding of a public key holds, bound to a scheme, if it is a key of the
algorithm. -/
def keyFor (algorithm : AlgorithmDetails) (scheme : Scheme) (der : Bytes) :
    Except KeyFault VerificationKey := do
  let info ← (KeyInfo.ofDer der).mapError KeyFault.key
  algorithm.checkSize info
  (VerificationKey.ofSpki der scheme).mapError KeyFault.key

/-- The key that the encoding of a public key holds, for the scheme of the algorithm. -/
def verificationKey (algorithm : AlgorithmDetails) (der : Bytes) (log? : Option String := none) :
    Except TrustError VerificationKey := do
  let scheme ← algorithm.scheme
  (algorithm.keyFor scheme der).mapError (.key log?)

end AlgorithmDetails

namespace KeyDetails

/-- The algorithm that key details declare. -/
def algorithm (details : KeyDetails) : Except TrustError AlgorithmDetails :=
  match details.algorithm? with
  | some algorithm => .ok algorithm
  | none => .error (.algorithm (.keyDetails details.name))

/-- The hash function that key details declare. -/
def signatureHash (details : KeyDetails) : Except TrustError HashAlgorithm :=
  details.algorithm.map (·.hash)

end KeyDetails
end Countersign
