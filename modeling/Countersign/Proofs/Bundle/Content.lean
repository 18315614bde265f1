import Countersign.Bundle.Content
import Countersign.Proofs.Format.Blob

/-!
# Recovery of signatures

Digests, detached signatures and envelopes are decoded from their documents as they were, whatever
bytes they hold and whichever optional members are left out.
-/

namespace Countersign

open Json Json.Fields

theorem HashAlgorithm.recovers :
    Decoder.Recovers HashAlgorithm.decoder HashAlgorithm.toDocument 0 := by
  refine ⟨fun algorithm => ?_, fun _ => .string _⟩
  cases algorithm <;> rfl

theorem MessageDigest.recovers :
    Decoder.Recovers MessageDigest.decoder MessageDigest.toDocument 1 := by
  refine .record (by decide) (fun digest => ?_) fun ⟨algorithm, bytes⟩ finds => ?_
  · exact .cons (.always (HashAlgorithm.recovers.isTextual _))
      (.cons (.always (Blob.recovers.isTextual _)) .nil)
  · refine seq_eq_ok (map_eq_ok (HashAlgorithm.recovers.member_always finds ?_))
      (Blob.recovers.member_always finds ?_)
    all_goals simp

theorem MessageSignature.recovers :
    Decoder.Recovers MessageSignature.decoder MessageSignature.toDocument 2 := by
  refine .record (by decide) (fun signature => ?_) fun ⟨digest?, bytes⟩ finds => ?_
  · exact .cons (.of? MessageDigest.recovers.isTextual _)
      (.cons (.always ((Blob.recovers.isTextual _).mono (by decide))) .nil)
  · refine seq_eq_ok (map_eq_ok (MessageDigest.recovers.nullable_of? finds ?_))
      (Blob.recovers.member_always finds ?_)
    all_goals simp

theorem EnvelopeSignature.recovers :
    Decoder.Recovers EnvelopeSignature.decoder EnvelopeSignature.toDocument 1 := by
  refine .record (by decide) (fun signature => ?_) fun ⟨keyId, bytes⟩ finds => ?_
  · exact .cons (.unlessEmpty (.string _) _) (.cons (.always (Blob.recovers.isTextual _)) .nil)
  · have keyId_read := Decoder.Recovers.string.member_unlessEmpty finds
      (String.isEmpty_iff (s := keyId)).mp List.mem_cons_self
    refine seq_eq_ok (map_eq_ok keyId_read) (Blob.recovers.member_always finds ?_)
    simp

theorem Envelope.recovers : Decoder.Recovers Envelope.decoder Envelope.toDocument 3 := by
  refine .record (by decide) (fun envelope => ?_) fun ⟨payloadType, payload, signatures⟩ finds => ?_
  · exact .cons (.always (.string _))
      (.cons (.always ((Blob.recovers.isTextual _).mono (by decide)))
        (.cons (.always (EnvelopeSignature.recovers.list.isTextual _)) .nil))
  · refine seq_eq_ok (seq_eq_ok (map_eq_ok (Decoder.Recovers.string.member_always finds ?_))
      (Blob.recovers.member_always finds ?_))
      (EnvelopeSignature.recovers.list.member_always finds ?_)
    all_goals simp

end Countersign
