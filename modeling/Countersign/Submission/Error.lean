import Countersign.Format.Error
import Countersign.Time.Duration

/-!
# Faults of submissions

What can go wrong between a signed bundle and its entry in a log, and how each fault is worded.
-/

namespace Countersign

/-- Why no entry can be proposed for an artifact. -/
inductive EntryFault where
  /-- The keys are not in the format of certificates. -/
  | keyFormat
  /-- There is no signature. -/
  | emptySignature
  /-- There is not exactly one key. -/
  | keyCount
  /-- The hash of the artifact is not hexadecimal. -/
  | hash (text : String)
  /-- The artifact is no envelope. -/
  | notEnvelope
  /-- The envelope has no signature. -/
  | unsignedEnvelope
  /-- There is no key. -/
  | noVerifiers
  /-- The maker of entries has a reason of its own. -/
  | ofFactory (reason : String)
  deriving DecidableEq, Repr

namespace EntryFault

/-- The wording of a fault. -/
def message : EntryFault → String
  | keyFormat => "hashedrekord only supports x509 keys"
  | emptySignature => "signature is empty"
  | keyCount => "hashedrekord takes exactly one public key"
  | hash text => s!"artifact hash is not hex: {text}"
  | notEnvelope => "artifact is not a DSSE envelope"
  | unsignedEnvelope => "DSSE envelope has no signatures"
  | noVerifiers => "no verifiers supplied"
  | ofFactory reason => reason

end EntryFault

/-- Why the answer of a log cannot be used. -/
inductive ResponseFault where
  /-- The body of the entry does not decode. -/
  | body
  /-- The identifier of the log is not hexadecimal. -/
  | logId (text : String) (fault : Hex.Fault)
  /-- A hash in the proof is not one in hexadecimal. -/
  | proofHash (fault : EncodingFault)
  /-- It is not clear which entry was created. -/
  | ambiguous
  /-- The answer is not a map of entries. -/
  | notEntries
  /-- The client has a reason of its own. -/
  | ofClient (reason : String)
  deriving DecidableEq, Repr

namespace ResponseFault

/-- The wording of a fault. -/
def message : ResponseFault → String
  | body => "undecodable entry body"
  | logId text fault => s!"bad log id {text}: {fault.message}"
  | proofHash fault => s!"bad proof hash: {fault.message}"
  | ambiguous => "response does not identify the created entry"
  | notEntries => "failed to parse JSON"
  | ofClient reason => reason

end ResponseFault

/-- Why a submission was cancelled. -/
inductive Cancellation where
  /-- The caller gave up. -/
  | byCaller
  /-- The deadline passed. -/
  | deadline (limit : Duration)
  /-- The caller gave up while the client was at work. -/
  | inClient
  /-- The client has a reason of its own. -/
  | ofClient (reason : String)
  deriving DecidableEq, Repr

namespace Cancellation

/-- The wording of a reason. -/
def message : Cancellation → String
  | byCaller => "submission was cancelled"
  | deadline limit => s!"no response within {limit.description}"
  | inClient => "request to Rekor was cancelled"
  | ofClient reason => reason

end Cancellation

/-- Why a request had no response. -/
inductive TransportFault where
  /-- No connection was made. -/
  | unreachable
  /-- The response did not come in time. -/
  | timedOut
  /-- The connection broke. -/
  | broken
  /-- The client has a reason of its own. -/
  | ofClient (reason : String)
  deriving DecidableEq, Repr

/-- What can go wrong with a submission. -/
inductive SubmissionError where
  /-- A detached signature comes without a certificate. -/
  | missingCertificate
  /-- The bundle has not been signed. -/
  | noSignature
  /-- A detached signature comes without the digest of what it signs. -/
  | missingDigest
  /-- No entry can be proposed. -/
  | entry (fault : EntryFault)
  /-- The client cannot be set up; the setting at fault may be known. -/
  | config (setting? : Option String)
  /-- A request had no response. -/
  | transport (fault : TransportFault)
  /-- The log refused the request. -/
  | api (reason : String)
  /-- The answer cannot be used. -/
  | response (fault : ResponseFault)
  /-- The submission was cancelled. -/
  | cancelled (reason : Cancellation)
  /-- A document cannot be decoded. -/
  | json (fault : Json.DecodeError)
  deriving DecidableEq, Repr

namespace SubmissionError

/-- The wording of an error; a request without response and a document that does not decode have
none of their own. -/
def message? : SubmissionError → Option String
  | missingCertificate => some "hashedrekord requires X.509 certificate"
  | noSignature => some "unable to find signature in bundle"
  | missingDigest => some "message signature has no message digest"
  | entry fault => some s!"invalid proposed entry: {fault.message}"
  | config none => some "invalid client configuration"
  | config (some setting) => some s!"invalid client configuration: {setting}"
  | transport _ => none
  | api reason => some s!"API error: {reason}"
  | response fault => some s!"invalid response: {fault.message}"
  | cancelled reason => some s!"submission cancelled: {reason.message}"
  | json .malformed => none
  | json (.refused reason) => some reason

/-- Whether the error comes from talking to the log rather than from what was submitted. -/
def isTransportFailure : SubmissionError → Bool
  | transport _ | api _ | response _ => true
  | _ => false

end SubmissionError
end Countersign
