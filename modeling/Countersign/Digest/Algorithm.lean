import Countersign.Digest.Sha2
import Countersign.Json.Decode

/-!
# Hash algorithms by name

Documents name hash functions in capitals, and log entries and digest texts in lowercase.  The SHA-3
functions can be named but not computed.
-/

namespace Countersign

/-- A hash function that documents can name. -/
inductive HashAlgorithm where
  | sha2_256
  | sha2_384
  | sha2_512
  | sha3_256
  | sha3_384
  deriving DecidableEq, Repr

namespace HashAlgorithm

/-- The name in documents. -/
def name : HashAlgorithm → String
  | sha2_256 => "SHA2_256"
  | sha2_384 => "SHA2_384"
  | sha2_512 => "SHA2_512"
  | sha3_256 => "SHA3_256"
  | sha3_384 => "SHA3_384"

/-- The name in log entries and in front of digests. -/
def entryName : HashAlgorithm → String
  | sha2_256 => "sha256"
  | sha2_384 => "sha384"
  | sha2_512 => "sha512"
  | sha3_256 => "sha3-256"
  | sha3_384 => "sha3-384"

/-- The length of a digest in bytes. -/
def digestLength : HashAlgorithm → Nat
  | sha2_256 => 32
  | sha2_384 => 48
  | sha2_512 => 64
  | sha3_256 => 32
  | sha3_384 => 48

/-- The algorithm with a name in documents. -/
def ofName? : String → Option HashAlgorithm
  | "SHA2_256" => some sha2_256
  | "SHA2_384" => some sha2_384
  | "SHA2_512" => some sha2_512
  | "SHA3_256" => some sha3_256
  | "SHA3_384" => some sha3_384
  | _ => none

/-- The digest of a message, for the functions that can be computed. -/
def digest? (algorithm : HashAlgorithm) (message : Bytes) : Option Bytes :=
  match algorithm with
  | sha2_256 => some (sha256 message)
  | sha2_384 => some (sha384 message)
  | sha2_512 => some (sha512 message)
  | sha3_256 | sha3_384 => none

/-- Decodes an algorithm from its name. -/
def decoder : Json.Decoder HashAlgorithm :=
  Json.Decoder.symbol ofName?

/-- The document of an algorithm. -/
def toDocument (algorithm : HashAlgorithm) : Json.Document :=
  .string algorithm.name

end HashAlgorithm
end Countersign
