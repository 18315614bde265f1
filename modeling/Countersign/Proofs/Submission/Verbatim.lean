import Countersign.Proofs.Json.Gap
import Countersign.Proofs.Outcome
import Countersign.Proofs.Text.Base64
import Countersign.Proofs.Text.Utf8
import Countersign.Submission.Artifact

/-!
# Entries for envelopes hold the artifact

An entry for an envelope is made of exactly those artifacts that are read as an envelope, are signed
and have a key.  The entry holds the artifact itself as far as it is text.  An artifact may be read
as an envelope without being text, if a part of it that is passed over is broken; the entry then
holds a text that is read as the same envelope.
-/

namespace Countersign

open Json

/-- An artifact that is a signed envelope, with a key that may verify it. -/
structure Artifact.IsEnvelope (artifact : Artifact) (envelope : Envelope) : Prop where
  decoded : (Text.readBytes artifact.content).decode Envelope.decoder = .ok envelope
  signed : envelope.signatures ≠ []
  verifiable : artifact.publicKeys ≠ []

/-- Why no envelope can be recorded of an artifact: the first rule that it breaks. -/
inductive Artifact.IsNoEnvelope (artifact : Artifact) : EntryFault → Prop
  | notEnvelope (other : ∀ envelope,
      (Text.readBytes artifact.content).decode Envelope.decoder ≠ .ok envelope) :
    IsNoEnvelope artifact .notEnvelope
  | unsignedEnvelope {envelope : Envelope}
    (decoded : (Text.readBytes artifact.content).decode Envelope.decoder = .ok envelope)
    (unsigned : envelope.signatures = []) : IsNoEnvelope artifact .unsignedEnvelope
  | noVerifiers {envelope : Envelope}
    (decoded : (Text.readBytes artifact.content).decode Envelope.decoder = .ok envelope)
    (signed : envelope.signatures ≠ []) (no_keys : artifact.publicKeys = []) :
    IsNoEnvelope artifact .noVerifiers

namespace EntryFactory

variable {artifact : Artifact}

/-- The entry that holds an artifact and its keys. -/
def entryOfContent (artifact : Artifact) : EnvelopeEntry where
  apiVersion := apiVersion
  kind := EntryKind.envelope.name
  envelope := Utf8.decodeLossy artifact.content
  verifiers := artifact.publicKeys.map Base64.encode

theorem envelopeEntry_of_isEnvelope {envelope : Envelope} (given : artifact.IsEnvelope envelope) :
    envelopeEntry artifact = .ok (entryOfContent artifact) := by
  have signed : envelope.signatures.isEmpty = false := by simpa using given.signed
  have verifiable : artifact.publicKeys.isEmpty = false := by simpa using given.verifiable
  rw [envelopeEntry, given.decoded]
  dsimp only
  rw [signed, verifiable]
  rfl

theorem envelopeEntry_of_isNoEnvelope {fault : EntryFault} (none : artifact.IsNoEnvelope fault) :
    envelopeEntry artifact = .error fault := by
  rw [envelopeEntry]
  cases none with
  | notEnvelope other =>
    split
    case h_1 => rfl
    case h_2 envelope decoded => exact absurd decoded (other envelope)
  | unsignedEnvelope decoded unsigned =>
    rw [decoded]
    dsimp only
    rw [unsigned]
    rfl
  | @noVerifiers envelope decoded signed no_keys =>
    have is_signed : envelope.signatures.isEmpty = false := by simpa using signed
    rw [decoded]
    dsimp only
    rw [is_signed, no_keys]
    rfl

theorem isEnvelope_or_isNoEnvelope (artifact : Artifact) :
    (∃ envelope, artifact.IsEnvelope envelope) ∨ ∃ fault, artifact.IsNoEnvelope fault := by
  rcases decoded : (Text.readBytes artifact.content).decode Envelope.decoder with error | envelope
  · refine .inr ⟨_, .notEnvelope fun envelope impossible => ?_⟩
    rw [decoded] at impossible
    cases impossible
  by_cases unsigned : envelope.signatures = []
  · exact .inr ⟨_, .unsignedEnvelope decoded unsigned⟩
  by_cases no_keys : artifact.publicKeys = []
  · exact .inr ⟨_, .noVerifiers decoded unsigned no_keys⟩
  · exact .inl ⟨envelope, decoded, unsigned, no_keys⟩

end EntryFactory

/-! ## What is passed over -/

theorem EnvelopeSignature.respects_mended : EnvelopeSignature.decoder.Respects Document.Mended :=
  .record_mended (by decide) fun found =>
    .seq (.map (.member found .string_mended _ _)) (.member found (.stringVia_mended _) _ _)

theorem Envelope.respects_mended : Envelope.decoder.Respects Document.Mended :=
  .record_mended (by decide) fun found =>
    .seq (.seq (.map (.member found .string_mended _ _)) (.member found (.stringVia_mended _) _ _))
      (.member found (EnvelopeSignature.respects_mended.list_mended) _ _)

/-- An entry that holds an artifact. -/
structure EnvelopeEntry.Holds (entry : EnvelopeEntry) (artifact : Artifact) : Prop where
  apiVersion_eq : entry.apiVersion = "0.0.1"
  kind_eq : entry.kind = "dsse"
  verifiers_eq : entry.verifiers.mapM Base64.decode = some artifact.publicKeys
  /-- Character for character the entry spells the artifact, but for the gaps in this. -/
  filled : Source.ofText entry.envelope = (Source.ofBytes artifact.content).fill
  /-- Byte for byte the entry spells the artifact if this is text at all. -/
  exact_iff : Bytes.ofText entry.envelope = artifact.content ↔
    ∃ text, Utf8.decode? artifact.content = some text
  /-- An artifact of which no part is broken is text. -/
  exact_of_isWhole : (Text.readBytes artifact.content).document.isWhole = true →
    Bytes.ofText entry.envelope = artifact.content
  /-- In any case the same envelope is read. -/
  decode_eq : (Text.read entry.envelope).decode Envelope.decoder =
    (Text.readBytes artifact.content).decode Envelope.decoder

namespace EntryFactory

variable {artifact : Artifact} {envelope : Envelope}

theorem ofText_decodeLossy_eq_iff {bytes : Bytes} :
    Bytes.ofText (Utf8.decodeLossy bytes) = bytes ↔ ∃ text, Utf8.decode? bytes = some text := by
  constructor
  · exact fun exact => ⟨_, Utf8.decode?_eq_some_iff.mpr exact⟩
  · rintro ⟨text, decoded⟩
    rw [← Utf8.decode?_eq_some_iff.mp decoded, Utf8.decodeLossy_ofText]

theorem decode_decodeLossy {bytes : Bytes}
    (decoded : (Text.readBytes bytes).decode Envelope.decoder = .ok envelope) :
    (Text.read (Utf8.decodeLossy bytes)).decode Envelope.decoder = .ok envelope := by
  rw [Text.decode_eq_ok_iff] at decoded ⊢
  obtain ⟨envelope_read, complete⟩ := decoded
  obtain ⟨filled_complete, mended⟩ := Text.fill_of_complete complete
  rw [Text.read, Source.ofText_decodeLossy]
  exact ⟨Envelope.respects_mended mended envelope_read, filled_complete⟩

theorem holds_entryOfContent (given : artifact.IsEnvelope envelope) :
    (entryOfContent artifact).Holds artifact where
  apiVersion_eq := rfl
  kind_eq := rfl
  verifiers_eq := Base64.mapM_decode_map_encode artifact.publicKeys
  filled := Source.ofText_decodeLossy artifact.content
  exact_iff := ofText_decodeLossy_eq_iff
  exact_of_isWhole whole := by
    have complete := (Text.decode_eq_ok_iff.mp given.decoded).2
    refine ofText_decodeLossy_eq_iff.mpr (Utf8.exists_decode?_of_not_mem ?_)
    exact Text.not_mem_of_isWhole complete whole
  decode_eq := (decode_decodeLossy given.decoded).trans given.decoded.symm

theorem standard_envelope_of_isEnvelope (given : artifact.IsEnvelope envelope) :
    standard .envelope artifact = .ok (.envelope (entryOfContent artifact)) := by
  rw [standard, envelopeEntry_of_isEnvelope given]
  rfl

theorem standard_envelope_of_isNoEnvelope {fault : EntryFault}
    (none : artifact.IsNoEnvelope fault) : standard .envelope artifact = .error fault := by
  rw [standard, envelopeEntry_of_isNoEnvelope none]
  rfl

/-- The usual maker of entries makes an entry for an envelope of exactly the artifacts that are
signed envelopes with a key, and names the first rule that any other breaks.  The entry holds the
keys in their order, and the artifact byte for byte if this is text.  Otherwise it holds a text
that is read as the same envelope. -/
theorem holds_artifact (artifact : Artifact) :
    ((∃ entry, standard .envelope artifact = .ok entry) ↔
      ∃ envelope, artifact.IsEnvelope envelope) ∧
    (∀ fault, standard .envelope artifact = .error fault ↔ artifact.IsNoEnvelope fault) ∧
    ∀ entry, standard .envelope artifact = .ok entry →
      ∃ own, entry = .envelope own ∧ own.Holds artifact := by
  obtain ⟨accepts, refuses⟩ :=
    Outcome.decided (isEnvelope_or_isNoEnvelope artifact)
      (fun ⟨_, given⟩ => ⟨_, standard_envelope_of_isEnvelope given⟩)
      (fun _ none => standard_envelope_of_isNoEnvelope none)
  refine ⟨accepts, refuses, fun entry made => ?_⟩
  obtain ⟨envelope, given⟩ := accepts.mp ⟨entry, made⟩
  cases made.symm.trans (standard_envelope_of_isEnvelope given)
  exact ⟨_, rfl, holds_entryOfContent given⟩

/-- An envelope with a member that nobody reads, whose text is a byte that is no character. -/
def strayEnvelope : Bytes :=
  Bytes.ofText "\x7b\"payloadType\":\"t\",\"payload\":\"\"," ++
    Bytes.ofText "\"signatures\":[\x7b\"sig\":\"\"\x7d],\"u\":\"" ++ [0xFF] ++ Bytes.ofText "\"\x7d"

theorem strayEnvelope_not_verbatim : ∃ entry : EnvelopeEntry,
    standard .envelope { content := strayEnvelope, publicKeys := [[0]] } = .ok (.envelope entry) ∧
      Bytes.ofText entry.envelope ≠ strayEnvelope := by
  refine ⟨entryOfContent { content := strayEnvelope, publicKeys := [[0]] }, ?_, ?_⟩
  · decide +kernel
  · decide +kernel

end EntryFactory

end Countersign
