import Countersign.Trust.Verifier

/-!
# Transparency logs

A log is known by the digest of its public key.  A document may declare another identifier; that
one is kept for writing and used for nothing else.
-/

namespace Countersign

/-- A log with the key that it signs with. -/
structure TransparencyLog where
  /-- The encoding of the public key. -/
  publicKey : Bytes
  /-- The declared algorithm of the key. -/
  keyDetails : KeyDetails
  /-- The period in which the key is trusted. -/
  validity : ValidityPeriod
  /-- The address of the log. -/
  baseUrl? : Option String := none
  /-- The name of the hash function of the log's tree. -/
  hashName? : Option String := none
  /-- A declared identifier other than the log's own. -/
  declaredId? : Option Bytes := none
  /-- A declared identifier is kept only where it disagrees. -/
  declared_ne : ∀ declared, declaredId? = some declared → declared ≠ sha256 publicKey := by simp
  deriving DecidableEq

namespace TransparencyLog

/-- The digest of the log's key. -/
def keyId (log : TransparencyLog) : Bytes :=
  sha256 log.publicKey

/-- The identifier of the log: the digest of its key in hexadecimal. -/
def id (log : TransparencyLog) : String :=
  Hex.encode log.keyId

/-- The hash function of the log's tree, where one is named. -/
def hashAlgorithm? (log : TransparencyLog) : Except TrustError (Option HashAlgorithm) :=
  match log.hashName? with
  | none => .ok none
  | some name =>
    match HashAlgorithm.ofName? name with
    | some algorithm => .ok (some algorithm)
    | none => .error (.algorithm (.hash name))

/-- The hash function of the log's signatures. -/
def signatureHash (log : TransparencyLog) : Except TrustError HashAlgorithm :=
  log.keyDetails.signatureHash

/-- Whether the log is trusted at an instant. -/
def isValidAt (log : TransparencyLog) (time : Instant) : Bool :=
  log.validity.contains time

/-- The verifier of the log's signatures. -/
def verifier (log : TransparencyLog) : Except TrustError Verifier := do
  let algorithm ← log.keyDetails.algorithm
  let key ← algorithm.verificationKey log.publicKey (some log.id)
  return ⟨key, log.validity⟩

/-- A text, or nothing if it is empty. -/
def unlessEmpty? (text : String) : Option String :=
  if text.isEmpty then none else some text

/-- The log of a record, with its key and its period. -/
def ofParts (record : LogRecord) (publicKey : Bytes) (validity : ValidityPeriod) :
    TransparencyLog where
  publicKey := publicKey
  keyDetails := KeyDetails.ofName record.key.details
  validity := validity
  baseUrl? := unlessEmpty? record.baseUrl
  hashName? := record.hashName?
  declaredId? := record.declaredId?.filter fun declared => declared ≠ sha256 publicKey
  declared_ne declared found := by
    obtain ⟨_, differs⟩ := Option.filter_eq_some_iff.mp found
    simpa using differs

/-- The log that a document gives; it has to have a key. -/
def ofRecord (record : LogRecord) : Except TrustError TransparencyLog :=
  match record.key.publicKey?.filter (fun publicKey => !publicKey.isEmpty) with
  | none => .error (.malformed .keylessLog)
  | some publicKey =>
    (ValidityPeriod.ofRecord record.key.period?).map (ofParts record publicKey)

/-- How a log is written; its identifier is always declared. -/
def toRecord (log : TransparencyLog) : LogRecord where
  baseUrl := log.baseUrl?.getD ""
  hashName? := log.hashName?
  key := ⟨some log.publicKey, log.keyDetails.name, log.validity.toRecord⟩
  declaredId? := some (log.declaredId?.getD log.keyId)

end TransparencyLog
end Countersign
