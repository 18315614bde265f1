import Countersign.Proofs.Json.Recovery
import Countersign.Submission.ProposedEntry

/-!
# Proposed entries keep their form

An entry is read back from its text in the form it was written in.  The form that is tried first
needs a member that the other form never writes, so the kind that an entry names does not matter.
-/

namespace Countersign

open Json Json.Fields

namespace HashedEntry

/-- The document of the name of the hash function and the digest. -/
def hashDocument (hash : String × String) : Document :=
  .record [.always "algorithm" (.string hash.1), .always "value" (.string hash.2)]

/-- The document of what is signed. -/
def dataDocument (hash : String × String) : Document :=
  .record [.always "hash" (hashDocument hash)]

/-- The document of a key. -/
def keyDocument (publicKey : String) : Document :=
  .record [.always "content" (.string publicKey)]

/-- The document of the signature and its key. -/
def signatureDocument (signature : String × String) : Document :=
  .record [.always "content" (.string signature.1),
    .always "publicKey" (keyDocument signature.2)]

/-- The document of the part that depends on the kind. -/
def specDocument (spec : (String × String) × (String × String)) : Document :=
  .record [.always "data" (dataDocument spec.1),
    .always "signature" (signatureDocument spec.2)]

/-- What an entry holds beside its version and kind. -/
def spec (entry : HashedEntry) : (String × String) × (String × String) :=
  ((entry.algorithm, entry.value), (entry.signature, entry.publicKey))

theorem recovers_hash : Decoder.Recovers hashDecoder hashDocument 1 := by
  refine .record (by decide) (fun hash => ?_) fun ⟨algorithm, value⟩ finds => ?_
  · exact .cons (.always (.string _)) (.cons (.always (.string _)) .nil)
  · refine seq_eq_ok (map_eq_ok (Decoder.Recovers.string.member_always finds ?_))
      (Decoder.Recovers.string.member_always finds ?_)
    all_goals simp

theorem recovers_data : Decoder.Recovers dataDecoder dataDocument 2 :=
  recovers_hash.single "hash" (.error .malformed)

theorem recovers_key : Decoder.Recovers keyDecoder keyDocument 1 :=
  Decoder.Recovers.string.single "content" (.error .malformed)

theorem recovers_signature : Decoder.Recovers signatureDecoder signatureDocument 2 := by
  refine .record (by decide) (fun signature => ?_) fun ⟨content, publicKey⟩ finds => ?_
  · exact .cons (.always (.string _)) (.cons (.always (recovers_key.isTextual _)) .nil)
  · refine seq_eq_ok (map_eq_ok (Decoder.Recovers.string.member_always finds ?_))
      (recovers_key.member_always finds ?_)
    all_goals simp

theorem recovers_spec : Decoder.Recovers specDecoder specDocument 3 := by
  refine .record (by decide) (fun spec => ?_) fun ⟨hash, signature⟩ finds => ?_
  · exact .cons (.always (recovers_data.isTextual _))
      (.cons (.always (recovers_signature.isTextual _)) .nil)
  · refine seq_eq_ok (map_eq_ok (recovers_data.member_always finds ?_))
      (recovers_signature.member_always finds ?_)
    all_goals simp

theorem recovers : Decoder.Recovers decoder toDocument 4 := by
  refine .record (by decide) (fun entry => ?_) fun entry finds => ?_
  · exact .cons (.always (.string _)) (.cons (.always (.string _))
      (.cons (.always (recovers_spec.isTextual entry.spec)) .nil))
  · have spec_read : Fields.required "spec" specDecoder _ = .ok entry.spec :=
      recovers_spec.member_always finds (by
        simp [spec, specDocument, dataDocument, hashDocument, signatureDocument, keyDocument])
    refine seq_eq_ok (seq_eq_ok (map_eq_ok (Decoder.Recovers.string.member_always finds ?_))
      (Decoder.Recovers.string.member_always finds ?_)) spec_read
    all_goals simp

end HashedEntry

namespace EnvelopeEntry

/-- The document of the envelope and its keys. -/
def contentDocument (content : String × List String) : Document :=
  .record [.always "envelope" (.string content.1),
    .always "verifiers" (.list .string content.2)]

/-- The document of the part that depends on the kind. -/
def specDocument (content : String × List String) : Document :=
  .record [.always "proposedContent" (contentDocument content)]

/-- What an entry holds beside its version and kind. -/
def content (entry : EnvelopeEntry) : String × List String :=
  (entry.envelope, entry.verifiers)

theorem recovers_content : Decoder.Recovers contentDecoder contentDocument 2 := by
  refine .record (by decide) (fun content => ?_) fun ⟨envelope, verifiers⟩ finds => ?_
  · exact .cons (.always (.string _))
      (.cons (.always (Decoder.Recovers.string.list.isTextual _)) .nil)
  · refine seq_eq_ok (map_eq_ok (Decoder.Recovers.string.member_always finds ?_))
      (Decoder.Recovers.string.list.member_always finds ?_)
    all_goals simp

theorem recovers_spec : Decoder.Recovers specDecoder specDocument 3 :=
  recovers_content.single "proposedContent" (.error .malformed)

theorem recovers : Decoder.Recovers decoder toDocument 4 := by
  refine .record (by decide) (fun entry => ?_) fun entry finds => ?_
  · exact .cons (.always (.string _)) (.cons (.always (.string _))
      (.cons (.always (recovers_spec.isTextual entry.content)) .nil))
  · have spec_read : Fields.required "spec" specDecoder _ = .ok entry.content :=
      recovers_spec.member_always finds (by simp [content, specDocument, contentDocument])
    refine seq_eq_ok (seq_eq_ok (map_eq_ok (Decoder.Recovers.string.member_always finds ?_))
      (Decoder.Recovers.string.member_always finds ?_)) spec_read
    all_goals simp

end EnvelopeEntry

namespace HashedEntry

/-- The part of an envelope's entry that depends on the kind does not say what is signed. -/
theorem specDecoder_ne_ok (content : String × List String)
    (spec : (String × String) × (String × String)) :
    specDecoder (EnvelopeEntry.specDocument content) ≠ .ok spec := by
  intro decoded
  have read := (seqLeft_eq_ok_iff.mp (result_eq_ok_iff.mp decoded)).1
  obtain ⟨change, signature, read, -, -⟩ := seq_eq_ok_iff.mp read
  obtain ⟨data, data_read, -⟩ := map_eq_ok_iff.mp read
  rw [required, member_eq_ok_iff_lookup (by simp [Slot.always])] at data_read
  cases data_read

/-- No entry for an envelope is read as one for a signature, whatever kind it names. -/
theorem decoder_ne_ok (envelope : EnvelopeEntry) (entry : HashedEntry) :
    decoder envelope.toDocument ≠ .ok entry := by
  intro decoded
  have read := (seqLeft_eq_ok_iff.mp (result_eq_ok_iff.mp decoded)).1
  obtain ⟨change, spec, -, spec_read, -⟩ := seq_eq_ok_iff.mp read
  rw [required, member_eq_ok_iff_lookup (by simp [Slot.always])] at spec_read
  exact specDecoder_ne_ok envelope.content spec spec_read

end HashedEntry

namespace ProposedEntry

theorem isTextual (entry : ProposedEntry) : entry.toDocument.IsTextual 4 := by
  cases entry with
  | hashed entry => exact HashedEntry.recovers.isTextual entry
  | envelope entry => exact EnvelopeEntry.recovers.isTextual entry

theorem recovers : Decoder.Recovers decoder toDocument 4 := by
  refine ⟨fun entry => ?_, isTextual⟩
  rw [decoder, if_pos (entry.isTextual.mono (by decide)).isKept, Decoder.orElse]
  cases entry with
  | hashed entry =>
    rw [toDocument, HashedEntry.recovers.decode_eq]
    rfl
  | envelope entry =>
    cases read : HashedEntry.decoder entry.toDocument with
    | ok other => exact absurd read (HashedEntry.decoder_ne_ok entry other)
    | error fault =>
      rw [toDocument, read, EnvelopeEntry.recovers.decode_eq]
      rfl

/-- An entry is read back from both of its texts as it was, in the form it had.  The form for
signatures alone does not read the text of an entry for an envelope, whatever kind it names. -/
theorem keeps_form (entry : ProposedEntry) :
    (Text.read entry.toDocument.compact).decode decoder = .ok entry ∧
    (Text.read entry.toDocument.indented).decode decoder = .ok entry ∧
    ∀ envelope, entry = .envelope envelope → ∀ hashed,
      (Text.read entry.toDocument.compact).decode HashedEntry.decoder ≠ .ok hashed ∧
      (Text.read entry.toDocument.compact).decode decoder ≠ .ok (.hashed hashed) := by
  obtain ⟨compact, indented⟩ := recovers.decode_text entry
  refine ⟨compact, indented, ?_⟩
  rintro envelope rfl hashed
  refine ⟨fun decoded => ?_, fun decoded => ?_⟩
  · rw [Text.read_compact (isTextual _).isSpelled, Text.decode_eq_ok_iff] at decoded
    exact HashedEntry.decoder_ne_ok envelope hashed decoded.1
  · cases compact.symm.trans decoded

end ProposedEntry
end Countersign
