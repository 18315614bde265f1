import Countersign.Bundle.Material
import Countersign.Proofs.Bundle.Content
import Countersign.Proofs.Json.Int64Text

/-!
# Recovery of verification material

Log entries, timestamps and the signer are decoded from their documents as they were.  The member
that names the signer is found among the others, since no other member has the name of an
alternative.
-/

namespace Countersign

open Json Json.Fields

theorem InclusionProof.recovers_checkpoint :
    Decoder.Recovers checkpointDecoder
      (fun envelope => .record [.always "envelope" (.string envelope)]) 1 :=
  Decoder.Recovers.string.single "envelope" (.ok "")

theorem InclusionProof.recovers :
    Decoder.Recovers InclusionProof.decoder InclusionProof.toDocument 2 := by
  refine .record (by decide) (fun proof => ?_)
    fun ⟨logIndex, rootHash, treeSize, hashes, checkpoint⟩ finds => ?_
  · exact .cons (.always (.string _))
      (.cons (.always (.string _))
        (.cons (.always (.string _))
          (.cons (.always (Sha256Digest.recovers.list.isTextual _))
            (.cons (.unlessEmpty (recovers_checkpoint.isTextual _) _) .nil))))
  · refine seq_eq_ok (seq_eq_ok (seq_eq_ok (seq_eq_ok
      (map_eq_ok (Int64Text.recovers.member_always finds ?_))
      (Sha256Digest.recovers.member_always finds ?_))
      (Int64Text.recovers.member_always finds ?_))
      (Sha256Digest.recovers.list.member_always finds ?_))
      (recovers_checkpoint.member_unlessEmpty finds String.isEmpty_iff.mp ?_)
    all_goals simp [memberNames]

theorem KindVersion.recovers : Decoder.Recovers KindVersion.decoder KindVersion.toDocument 1 := by
  refine .record (by decide) (fun kindVersion => ?_) fun ⟨kind, version⟩ finds => ?_
  · exact .cons (.always (.string _)) (.cons (.always (.string _)) .nil)
  · refine seq_eq_ok (map_eq_ok (Decoder.Recovers.string.member_always finds ?_))
      (Decoder.Recovers.string.member_always finds ?_)
    all_goals simp

theorem LoggedEntry.recovers_logId : Decoder.Recovers logIdDecoder logIdDocument 1 :=
  Blob.recovers.single "keyId" (.error .malformed)

theorem LoggedEntry.recovers_promise : Decoder.Recovers promiseDecoder promiseDocument 1 :=
  Blob.recovers.single "signedEntryTimestamp" (.error .malformed)

theorem LoggedEntry.recovers : Decoder.Recovers LoggedEntry.decoder LoggedEntry.toDocument 3 := by
  refine .record (by decide) (fun entry => ?_)
    fun ⟨logIndex, logKeyId, kindVersion, integratedTime, promise?, proof?, body⟩ finds => ?_
  · exact .cons (.always (.string _))
      (.cons (.always ((recovers_logId.isTextual _).mono (by decide)))
        (.cons (.always ((KindVersion.recovers.isTextual _).mono (by decide)))
          (.cons (.unlessEmpty (.string _) _)
            (.cons (.of? (fun _ => (recovers_promise.isTextual _).mono (by decide)) _)
              (.cons (.of? InclusionProof.recovers.isTextual _)
                (.cons (.always (.string _)) .nil))))))
  · refine seq_eq_ok (seq_eq_ok (seq_eq_ok (seq_eq_ok (seq_eq_ok (seq_eq_ok
      (map_eq_ok (Int64Text.recovers.member_always finds ?_))
      (recovers_logId.member_always finds ?_))
      (KindVersion.recovers.member_always finds ?_))
      (Int64Text.recovers.member_unlessEmpty finds beq_iff_eq.mp ?_))
      (recovers_promise.nullable_of? finds ?_))
      (InclusionProof.recovers.nullable_of? finds ?_))
      (Blob.recovers.member_always finds ?_)
    all_goals simp [memberNames]

theorem TimestampData.recovers_token : Decoder.Recovers tokenDecoder tokenDocument 1 :=
  Blob.recovers.single "signedTimestamp" (.error .malformed)

theorem TimestampData.recovers :
    Decoder.Recovers TimestampData.decoder TimestampData.toDocument 3 := by
  refine .record (by decide) (fun data => ?_) fun ⟨tokens⟩ finds => ?_
  · exact .cons (.unlessEmpty (recovers_token.list.isTextual _) _) .nil
  · exact map_eq_ok
      (recovers_token.list.member_unlessEmpty finds List.isEmpty_iff.mp List.mem_cons_self)

theorem Signer.recovers_certificate :
    Decoder.Recovers certificateDecoder certificateDocument 1 :=
  Blob.recovers.single "rawBytes" (.error .malformed)

theorem Signer.recovers_chain :
    Decoder.Recovers chainDecoder
      (fun certificates =>
        .record [.always "certificates" (.list certificateDocument certificates)]) 3 :=
  recovers_certificate.list.single "certificates" (.error .malformed)

theorem Signer.recovers_hint :
    Decoder.Recovers hintDecoder (fun hint => .record [.always "hint" (.string hint)]) 1 :=
  Decoder.Recovers.string.single "hint" (.ok "")

namespace Signer

theorem isTextual_toMember (signer : Signer) : signer.toMember.2.IsTextual 3 := by
  cases signer with
  | certificate der => exact (recovers_certificate.isTextual der).mono (by decide)
  | chain certificates => exact recovers_chain.isTextual certificates
  | publicKey hint => exact (recovers_hint.isTextual hint).mono (by decide)

/-- The name of a signer's member selects a decoder that recovers the signer. -/
theorem exists_alternative (signer : Signer) :
    ∃ decode, alternative? signer.toMember.1 = some decode ∧
      decode signer.toMember.2 = .ok signer := by
  cases signer with
  | certificate der =>
    exact ⟨_, rfl, Outcome.map_eq_ok_iff.mpr ⟨der, recovers_certificate.decode_eq der, rfl⟩⟩
  | chain certificates =>
    exact ⟨_, rfl,
      Outcome.map_eq_ok_iff.mpr ⟨certificates, recovers_chain.decode_eq certificates, rfl⟩⟩
  | publicKey hint =>
    exact ⟨_, rfl, Outcome.map_eq_ok_iff.mpr ⟨hint, recovers_hint.decode_eq hint, rfl⟩⟩

/-- The member of a signer decides, since it stands first. -/
theorem fields_toMember (signer : Signer) (rest : Members) :
    fields (signer.toMember :: rest) = .ok signer := by
  obtain ⟨decode, selected, decoded⟩ := signer.exists_alternative
  simp [fields, selected, decoded, «at», Except.mapError]

end Signer

namespace Material

/-- The slots of the members of material, of which the first is named by the signer. -/
def slots (material : Material) : List Slot :=
  [some material.signer.toMember,
    .always "tlogEntries" (.list LoggedEntry.toDocument material.entries),
    .always "timestampVerificationData" material.timestamps.toDocument]

theorem holds_slots (material : Material) :
    List.Forall₂ (Slot.Holds 4) (material.signer.toMember.1 :: ownNames) material.slots :=
  .cons (.always ((Signer.isTextual_toMember _).mono (by decide)))
    (.cons (.always (LoggedEntry.recovers.list.isTextual _))
      (.cons (.always ((TimestampData.recovers.isTextual _).mono (by decide))) .nil))

/-- Material is recovered as long as its members may nest as deep as written ones do. -/
theorem recovers (outer : Nat) (shallow : 4 ≤ Document.maxDepth - outer - 1) :
    Decoder.Recovers (decoder outer) toDocument 5 := by
  refine ⟨fun material => ?_, fun material => Slot.isTextual_record material.holds_slots⟩
  have distinct : (material.signer.toMember.1 :: ownNames).Nodup := by
    cases material.signer <;> simp [Signer.toMember, ownNames]
  have finds := Slot.finds material.holds_slots distinct
  have entries_read : optional "tlogEntries" [] _ (material.slots.filterMap id) = _ :=
    (LoggedEntry.recovers.list.orDefault []).member_always finds (.tail _ (.head _))
  have timestamps_read : optional "timestampVerificationData" ({} : TimestampData) _
      (material.slots.filterMap id) = _ :=
    (TimestampData.recovers.orDefault {}).member_always finds (.tail _ (.tail _ (.head _)))
  have others_read : others ownNames
      (fun member => member.2.isKept (Document.maxDepth - outer - 1))
      (material.slots.filterMap id) = .ok () := by
    refine others_eq_ok fun member listed => .inr ?_
    exact ((Slot.isTextual_of_mem material.holds_slots listed).mono shallow).isKept
  have signer_read : Signer.fields (material.slots.filterMap id) = .ok material.signer :=
    Signer.fields_toMember material.signer _
  have fields_read : fields (Document.maxDepth - outer - 1) (material.slots.filterMap id) = _ :=
    seq_eq_ok (seq_eq_ok (seq_eq_ok (map_eq_ok entries_read) timestamps_read) others_read)
      signer_read
  exact result_eq_ok_iff.mpr fields_read

end Material

end Countersign
