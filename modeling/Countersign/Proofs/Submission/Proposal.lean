import Countersign.Proofs.Bundle.Content
import Countersign.Proofs.Submission.Normalization
import Countersign.Proofs.Submission.Verbatim

/-!
# What is proposed is what the bundle carries

On its way into an entry an envelope is written as text, encoded, read again and copied through a
lossy reading; a digest is written behind the name of its algorithm, divided at the first colon,
read and written again.  Nothing is lost, and every bundle for which no entry can be proposed has a
reason of its own.
-/

namespace Countersign

open Json

theorem HashAlgorithm.colon_not_mem_entryName (algorithm : HashAlgorithm) :
    ':' ∉ algorithm.entryName.toList := by
  cases algorithm <;> decide

/-- The first colon of a written digest stands right behind the name of its algorithm. -/
theorem MessageDigest.divides_prefixedHex (digest : MessageDigest) :
    EntryFactory.Divides digest.prefixedHex digest.algorithm.entryName
      (Hex.encode digest.digest) :=
  .named digest.algorithm.colon_not_mem_entryName _

/-- An entry that carries an envelope and a key. -/
structure EnvelopeEntry.Carries (entry : EnvelopeEntry) (envelope : Envelope) (publicKey : Bytes) :
    Prop where
  apiVersion_eq : entry.apiVersion = "0.0.1"
  kind_eq : entry.kind = "dsse"
  text_eq : entry.envelope = envelope.canonicalText
  envelope_eq : (Text.read entry.envelope).decode Envelope.decoder = .ok envelope
  verifiers_eq : entry.verifiers.mapM Base64.decode = some [publicKey]

/-- An entry that carries a digest, a signature and a key. -/
structure HashedEntry.Carries (entry : HashedEntry) (digest : MessageDigest)
    (signature publicKey : Bytes) : Prop where
  apiVersion_eq : entry.apiVersion = "0.0.1"
  kind_eq : entry.kind = "hashedrekord"
  algorithm_eq : entry.algorithm = digest.algorithm.entryName
  digest_eq : Hex.decode entry.value = .ok digest.digest
  signature_eq : Base64.decode entry.signature = some signature
  publicKey_eq : Base64.decode entry.publicKey = some publicKey

namespace EntryFactory

/-- The entry for an envelope that is given as its canonical text. -/
def entryOfEnvelope (envelope : Envelope) (publicKey : Bytes) : EnvelopeEntry where
  apiVersion := apiVersion
  kind := EntryKind.envelope.name
  envelope := envelope.canonicalText
  verifiers := [Base64.encode publicKey]

theorem carries_entryOfEnvelope (envelope : Envelope) (publicKey : Bytes) :
    (entryOfEnvelope envelope publicKey).Carries envelope publicKey where
  apiVersion_eq := rfl
  kind_eq := rfl
  text_eq := rfl
  envelope_eq := (Envelope.recovers.decode_text envelope).1
  verifiers_eq := by simp [entryOfEnvelope, Base64.decode_encode]

theorem envelopeEntry_canonicalText (envelope : Envelope) (publicKey : Bytes) :
    envelopeEntry { content := Bytes.ofText envelope.canonicalText, publicKeys := [publicKey] } =
      if envelope.signatures = [] then .error .unsignedEnvelope
      else .ok (entryOfEnvelope envelope publicKey) := by
  generalize artifact_eq :
    ({ content := Bytes.ofText envelope.canonicalText, publicKeys := [publicKey] } : Artifact) =
      artifact
  have content_eq : artifact.content = Bytes.ofText envelope.canonicalText := by rw [← artifact_eq]
  have keys_eq : artifact.publicKeys = [publicKey] := by rw [← artifact_eq]
  have decoded : (Text.readBytes artifact.content).decode Envelope.decoder = .ok envelope := by
    rw [content_eq, Text.readBytes_ofText]
    exact (Envelope.recovers.decode_text envelope).1
  by_cases unsigned : envelope.signatures = []
  · rw [if_pos unsigned]
    exact envelopeEntry_of_isNoEnvelope (.unsignedEnvelope decoded unsigned)
  · have verifiable : artifact.publicKeys ≠ [] := keys_eq ▸ List.cons_ne_nil _ _
    rw [if_neg unsigned, envelopeEntry_of_isEnvelope ⟨decoded, unsigned, verifiable⟩,
      entryOfContent, content_eq, keys_eq, Utf8.decodeLossy_ofText]
    rfl

/-- What a detached signature with a digest tells of an artifact. -/
def artifactOfSignature (digest : MessageDigest) (signature publicKey : Bytes) : Artifact where
  hash := digest.prefixedHex
  signature := signature
  publicKeys := [publicKey]
  inCertificateFormat := true

/-- The entry for a detached signature with a digest. -/
def entryOfSignature (digest : MessageDigest) (signature publicKey : Bytes) : HashedEntry where
  apiVersion := apiVersion
  kind := EntryKind.hashed.name
  algorithm := digest.algorithm.entryName
  value := Hex.encode digest.digest
  signature := Base64.encode signature
  publicKey := Base64.encode publicKey

theorem carries_entryOfSignature (digest : MessageDigest) (signature publicKey : Bytes) :
    (entryOfSignature digest signature publicKey).Carries digest signature publicKey where
  apiVersion_eq := rfl
  kind_eq := rfl
  algorithm_eq := rfl
  digest_eq := Hex.decode_encode digest.digest
  signature_eq := Base64.decode_encode signature
  publicKey_eq := Base64.decode_encode publicKey

/-- Of an empty signature and an empty digest, the signature is the one that is reported. -/
theorem hashedEntry_artifactOfSignature (digest : MessageDigest) (signature publicKey : Bytes) :
    hashedEntry (artifactOfSignature digest signature publicKey) =
      if signature = [] then .error .emptySignature
      else if digest.digest = [] then .error (.hash digest.prefixedHex)
      else .ok (entryOfSignature digest signature publicKey) := by
  have divides : Divides (artifactOfSignature digest signature publicKey).hash _ _ :=
    digest.divides_prefixedHex
  have decoded := Hex.decode_encode digest.digest
  by_cases unsigned : signature = []
  · rw [if_pos unsigned]
    exact hashedEntry_of_isUnsigned divides (.emptySignature rfl unsigned)
  rw [if_neg unsigned]
  by_cases empty : digest.digest = []
  · rw [if_pos empty]
    have no_digest : Hex.encode digest.digest = "" := by rw [empty]; rfl
    exact hashedEntry_of_isUnsigned divides (.hash rfl unsigned rfl (.inl no_digest))
  · rw [if_neg empty]
    exact hashedEntry_of_digest divides rfl unsigned rfl decoded
      ((decode_ne_nil_iff decoded).mp empty)

end EntryFactory

namespace Bundle

variable {bundle : Bundle}

/-- A bundle has no signing certificate when it names a key or has an empty chain. -/
theorem signingCertificate?_eq_none_iff :
    bundle.signingCertificate? = none ↔
      (∃ hint, bundle.material.signer = .publicKey hint) ∨ bundle.material.signer = .chain [] := by
  rw [signingCertificate?]
  cases bundle.material.signer with
  | certificate der => simp [Signer.signingCertificate?]
  | chain certificates => cases certificates <;> simp [Signer.signingCertificate?]
  | publicKey hint => simp [Signer.signingCertificate?]

theorem proposedEntry_of_told {publicKey : Bytes} {kind : EntryKind} {artifact : Artifact}
    (told : Artifact.ofBundle bundle publicKey = .ok (kind, artifact)) (factory : EntryFactory) :
    bundle.proposedEntry publicKey factory = (factory kind artifact).mapError .entry := by
  rw [proposedEntry, told]
  rfl

theorem proposedEntry_of_untold {publicKey : Bytes} {error : SubmissionError}
    (untold : Artifact.ofBundle bundle publicKey = .error error) (factory : EntryFactory) :
    bundle.proposedEntry publicKey factory = .error error := by
  rw [proposedEntry, untold]
  rfl

theorem proposedEntry_of_envelope {envelope : Envelope}
    (content : bundle.content? = some (.envelope envelope)) (publicKey : Bytes) :
    bundle.proposedEntry publicKey =
      if envelope.signatures = [] then .error (.entry .unsignedEnvelope)
      else .ok (.envelope (EntryFactory.entryOfEnvelope envelope publicKey)) := by
  have told : Artifact.ofBundle bundle publicKey = .ok (.envelope,
      { content := Bytes.ofText envelope.canonicalText, publicKeys := [publicKey] }) := by
    rw [Artifact.ofBundle, content]
  rw [proposedEntry_of_told told, EntryFactory.standard, EntryFactory.envelopeEntry_canonicalText]
  split <;> rfl

theorem proposedEntry_of_message {signature : MessageSignature} {certificate : Bytes}
    {digest : MessageDigest} (content : bundle.content? = some (.message signature))
    (certified : bundle.signingCertificate? = some certificate)
    (digested : signature.digest? = some digest) (publicKey : Bytes) :
    bundle.proposedEntry publicKey =
      if signature.signature = [] then .error (.entry .emptySignature)
      else if digest.digest = [] then .error (.entry (.hash digest.prefixedHex))
      else .ok (.hashed (EntryFactory.entryOfSignature digest signature.signature publicKey)) := by
  have told : Artifact.ofBundle bundle publicKey = .ok (.hashed,
      EntryFactory.artifactOfSignature digest signature.signature publicKey) := by
    rw [Artifact.ofBundle, content]
    simp only [certified, digested]
    rfl
  rw [proposedEntry_of_told told, EntryFactory.standard,
    EntryFactory.hashedEntry_artifactOfSignature]
  split
  · rfl
  · split <;> rfl

theorem proposedEntry_without_certificate {signature : MessageSignature}
    (content : bundle.content? = some (.message signature))
    (uncertified : bundle.signingCertificate? = none) (publicKey : Bytes) :
    bundle.proposedEntry publicKey = .error .missingCertificate := by
  have failed : Artifact.ofBundle bundle publicKey = .error .missingCertificate := by
    rw [Artifact.ofBundle, content]
    simp only [uncertified]
  exact proposedEntry_of_untold failed _

theorem proposedEntry_without_digest {signature : MessageSignature} {certificate : Bytes}
    (content : bundle.content? = some (.message signature))
    (certified : bundle.signingCertificate? = some certificate)
    (undigested : signature.digest? = none) (publicKey : Bytes) :
    bundle.proposedEntry publicKey = .error .missingDigest := by
  have failed : Artifact.ofBundle bundle publicKey = .error .missingDigest := by
    rw [Artifact.ofBundle, content]
    simp only [certified, undigested]
  exact proposedEntry_of_untold failed _

theorem proposedEntry_without_content (content : bundle.content? = none) (publicKey : Bytes) :
    bundle.proposedEntry publicKey = .error .noSignature := by
  have failed : Artifact.ofBundle bundle publicKey = .error .noSignature := by
    rw [Artifact.ofBundle, content]
  exact proposedEntry_of_untold failed _

/-- What is proposed for an envelope: an entry that carries it, if it is signed. -/
def ProposesEnvelope (bundle : Bundle) (publicKey : Bytes) (envelope : Envelope) : Prop :=
  if envelope.signatures = [] then
    bundle.proposedEntry publicKey = .error (.entry .unsignedEnvelope)
  else
    ∃ entry, bundle.proposedEntry publicKey = .ok (.envelope entry) ∧
      entry.Carries envelope publicKey

/-- What is proposed for a detached signature: an entry that carries it with its digest, if there is
a certificate and neither is missing or empty. -/
def ProposesSignature (bundle : Bundle) (publicKey : Bytes) (signature : MessageSignature) : Prop :=
  match bundle.signingCertificate?, signature.digest? with
  | none, _ => bundle.proposedEntry publicKey = .error .missingCertificate
  | some _, none => bundle.proposedEntry publicKey = .error .missingDigest
  | some _, some digest =>
    if signature.signature = [] then
      bundle.proposedEntry publicKey = .error (.entry .emptySignature)
    else if digest.digest = [] then
      bundle.proposedEntry publicKey = .error (.entry (.hash digest.prefixedHex))
    else
      ∃ entry, bundle.proposedEntry publicKey = .ok (.hashed entry) ∧
        entry.Carries digest signature.signature publicKey

theorem proposesEnvelope {envelope : Envelope}
    (content : bundle.content? = some (.envelope envelope)) (publicKey : Bytes) :
    bundle.ProposesEnvelope publicKey envelope := by
  have proposed := proposedEntry_of_envelope content publicKey
  rw [ProposesEnvelope]
  split
  case isTrue unsigned => rw [proposed, if_pos unsigned]
  case isFalse signed =>
    rw [if_neg signed] at proposed
    exact ⟨_, proposed, EntryFactory.carries_entryOfEnvelope envelope publicKey⟩

theorem proposesSignature {signature : MessageSignature}
    (content : bundle.content? = some (.message signature)) (publicKey : Bytes) :
    bundle.ProposesSignature publicKey signature := by
  rw [ProposesSignature]
  split
  case h_1 uncertified => exact proposedEntry_without_certificate content uncertified publicKey
  case h_2 certified undigested =>
    exact proposedEntry_without_digest content certified undigested publicKey
  case h_3 digest certified digested =>
    have proposed := proposedEntry_of_message content certified digested publicKey
    split
    case isTrue unsigned => rw [proposed, if_pos unsigned]
    case isFalse signed =>
      rw [if_neg signed] at proposed
      split
      case isTrue empty => rw [proposed, if_pos empty]
      case isFalse filled =>
        rw [if_neg filled] at proposed
        exact ⟨_, proposed, EntryFactory.carries_entryOfSignature digest _ publicKey⟩

/-- What the usual maker of entries proposes is decided by the content of the bundle, and carries
all of it. -/
theorem proposedEntry_carries (bundle : Bundle) (publicKey : Bytes) :
    (match bundle.content? with
      | some (.envelope envelope) => bundle.ProposesEnvelope publicKey envelope
      | some (.message signature) => bundle.ProposesSignature publicKey signature
      | none => bundle.proposedEntry publicKey = .error .noSignature) ∧
    (bundle.signingCertificate? = none ↔
      (∃ hint, bundle.material.signer = .publicKey hint) ∨ bundle.material.signer = .chain []) := by
  refine ⟨?_, signingCertificate?_eq_none_iff⟩
  split
  case h_1 envelope content => exact proposesEnvelope content publicKey
  case h_2 signature content => exact proposesSignature content publicKey
  case h_3 content => exact proposedEntry_without_content content publicKey

end Bundle

end Countersign
