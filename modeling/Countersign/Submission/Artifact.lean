import Countersign.Bundle.Basic
import Countersign.Submission.Error
import Countersign.Submission.ProposedEntry
import Countersign.Text.Utf8

/-!
# From artifacts to proposed entries

A maker of entries turns what is known of a signed artifact into an entry for a log.  The usual
maker checks everything that the log would refuse.
-/

namespace Countersign

/-- The kinds of entries. -/
inductive EntryKind where
  /-- A signature over a digest. -/
  | hashed
  /-- A signed envelope. -/
  | envelope
  deriving DecidableEq, Repr

namespace EntryKind

/-- The name of a kind. -/
def name : EntryKind → String
  | hashed => "hashedrekord"
  | envelope => "dsse"

end EntryKind

/-- What an entry may need to know of a signed artifact. -/
structure Artifact where
  /-- The artifact itself; for envelopes their JSON text. -/
  content : Bytes := []
  /-- The digest of the artifact, with the name of the hash function in front. -/
  hash : String := ""
  /-- The detached signature. -/
  signature : Bytes := []
  /-- The certificates or keys that verify the signature. -/
  publicKeys : List Bytes := []
  /-- Whether the keys are in the format of certificates. -/
  inCertificateFormat : Bool := false
  deriving DecidableEq, Repr

/-- Turns an artifact into an entry. -/
abbrev EntryFactory := EntryKind → Artifact → Except EntryFault ProposedEntry

namespace EntryFactory

/-- The version of the entries. -/
def apiVersion : String := "0.0.1"

/-- The name of the hash function and the digest in the hash of an artifact, divided at the first
colon; without a colon the function is SHA-256. -/
def splitHash (hash : String) : String × String :=
  match hash.toList.span (· ≠ ':') with
  | (name, _ :: value) => (String.ofList name, String.ofList value)
  | (_, []) => ("sha256", hash)

/-- The entry for a signature over a digest. -/
def hashedEntry (artifact : Artifact) : Except EntryFault HashedEntry := do
  if !artifact.inCertificateFormat then throw .keyFormat
  if artifact.signature.isEmpty then throw .emptySignature
  match artifact.publicKeys with
  | [publicKey] =>
    let (algorithm, value) := splitHash artifact.hash
    match Hex.decode value with
    | .ok (_ :: _) =>
      return {
        apiVersion
        kind := EntryKind.hashed.name
        algorithm
        value := value.toLower
        signature := Base64.encode artifact.signature
        publicKey := Base64.encode publicKey }
    | _ => throw (.hash artifact.hash)
  | _ => throw .keyCount

/-- The entry for a signed envelope. -/
def envelopeEntry (artifact : Artifact) : Except EntryFault EnvelopeEntry := do
  match (Json.Text.readBytes artifact.content).decode Envelope.decoder with
  | .error _ => throw .notEnvelope
  | .ok envelope =>
    if envelope.signatures.isEmpty then throw .unsignedEnvelope
    if artifact.publicKeys.isEmpty then throw .noVerifiers
    return {
      apiVersion
      kind := EntryKind.envelope.name
      envelope := Utf8.decodeLossy artifact.content
      verifiers := artifact.publicKeys.map Base64.encode }

/-- The usual maker of entries. -/
def standard : EntryFactory
  | .hashed, artifact => (hashedEntry artifact).map .hashed
  | .envelope, artifact => (envelopeEntry artifact).map .envelope

end EntryFactory

namespace Artifact

/-- What a bundle tells of the artifact that it signs, with the kind of its entry. -/
def ofBundle (bundle : Bundle) (publicKey : Bytes) :
    Except SubmissionError (EntryKind × Artifact) :=
  match bundle.content? with
  | some (.envelope envelope) =>
    .ok (.envelope, { content := Bytes.ofText envelope.canonicalText, publicKeys := [publicKey] })
  | some (.message signature) =>
    match bundle.signingCertificate?, signature.digest? with
    | none, _ => .error .missingCertificate
    | some _, none => .error .missingDigest
    | some _, some digest =>
      .ok (.hashed, {
        hash := digest.prefixedHex
        signature := signature.signature
        publicKeys := [publicKey]
        inCertificateFormat := true })
  | none => .error .noSignature

end Artifact

/-- The entry that a bundle proposes. -/
def Bundle.proposedEntry (bundle : Bundle) (publicKey : Bytes)
    (factory : EntryFactory := EntryFactory.standard) : Except SubmissionError ProposedEntry := do
  let (kind, artifact) ← Artifact.ofBundle bundle publicKey
  (factory kind artifact).mapError .entry

end Countersign
