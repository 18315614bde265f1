import Countersign.Proofs.Format.Blob
import Countersign.Trust.Record

/-!
# Recovery of trust root documents

Every record of a trust root document is decoded from the document that is written for it as it
was: members that are left out stand for what is empty or absent in the record.
-/

namespace Countersign

open Json Json.Fields

theorem PeriodRecord.recovers : Decoder.Recovers decoder toDocument 1 := by
  refine .record (by decide) (fun record => ?_) fun ⟨start?, finish?⟩ finds => ?_
  · exact .cons (.of? .string _) (.cons (.of? .string _) .nil)
  · refine seq_eq_ok (map_eq_ok (Decoder.Recovers.string.nullable_of? finds ?_))
      (Decoder.Recovers.string.nullable_of? finds ?_)
    all_goals simp

theorem KeyRecord.recovers : Decoder.Recovers decoder toDocument 2 := by
  refine .record (by decide) (fun record => ?_) fun ⟨publicKey?, details, period?⟩ finds => ?_
  · exact .cons (.of? (fun key => (Blob.recovers.isTextual key).mono (by decide)) _)
      (.cons (.unlessEmpty (.string _) _) (.cons (.of? PeriodRecord.recovers.isTextual _) .nil))
  · refine seq_eq_ok (seq_eq_ok (map_eq_ok (Blob.recovers.nullable_of? finds ?_))
      (Decoder.Recovers.string.member_unlessEmpty finds String.isEmpty_iff.mp ?_))
      (PeriodRecord.recovers.nullable_of? finds ?_)
    all_goals simp

theorem LogRecord.recovers_id : Decoder.Recovers idDecoder idDocument 1 :=
  Blob.recovers.single "keyId" (.error .malformed)

theorem LogRecord.recovers : Decoder.Recovers decoder toDocument 3 := by
  refine .record (by decide) (fun record => ?_)
    fun ⟨baseUrl, hashName?, key, declaredId?⟩ finds => ?_
  · exact .cons (.unlessEmpty (.string _) _)
      (.cons (.of? .string _)
        (.cons (.always (KeyRecord.recovers.isTextual _))
          (.cons (.of? (fun id => (recovers_id.isTextual id).mono (by decide)) _) .nil)))
  · refine seq_eq_ok (seq_eq_ok (seq_eq_ok
      (map_eq_ok (Decoder.Recovers.string.member_unlessEmpty finds String.isEmpty_iff.mp ?_))
      (Decoder.Recovers.string.nullable_of? finds ?_))
      (KeyRecord.recovers.member_always finds ?_))
      (recovers_id.nullable_of? finds ?_)
    all_goals simp

theorem AuthoritySubject.recovers : Decoder.Recovers decoder toDocument 1 := by
  refine .record (by decide) (fun subject => ?_) fun ⟨organization, commonName⟩ finds => ?_
  · exact .cons (.unlessEmpty (.string _) _) (.cons (.unlessEmpty (.string _) _) .nil)
  · refine seq_eq_ok
      (map_eq_ok (Decoder.Recovers.string.member_unlessEmpty finds String.isEmpty_iff.mp ?_))
      (Decoder.Recovers.string.member_unlessEmpty finds String.isEmpty_iff.mp ?_)
    all_goals simp

theorem AuthorityRecord.recovers_certificate :
    Decoder.Recovers certificateDecoder certificateDocument 1 :=
  Blob.recovers.single "rawBytes" (.error .malformed)

theorem AuthorityRecord.recovers_chain : Decoder.Recovers chainDecoder chainDocument 3 :=
  recovers_certificate.list.single "certificates" (.ok [])

theorem AuthorityRecord.recovers : Decoder.Recovers decoder toDocument 4 := by
  refine .record (by decide) (fun record => ?_) fun ⟨subject?, uri, chain, period?⟩ finds => ?_
  · exact .cons
      (.of? (fun subject => (AuthoritySubject.recovers.isTextual subject).mono (by decide)) _)
      (.cons (.unlessEmpty (.string _) _)
        (.cons (.always (recovers_chain.isTextual _))
          (.cons (.of? (fun period => (PeriodRecord.recovers.isTextual period).mono (by decide)) _)
            .nil)))
  · refine seq_eq_ok (seq_eq_ok (seq_eq_ok
      (map_eq_ok (AuthoritySubject.recovers.nullable_of? finds ?_))
      (Decoder.Recovers.string.member_unlessEmpty finds String.isEmpty_iff.mp ?_))
      (recovers_chain.member_always finds ?_))
      (PeriodRecord.recovers.nullable_of? finds ?_)
    all_goals simp

theorem RootRecord.recovers : Decoder.Recovers decoder toDocument 6 := by
  have logs := LogRecord.recovers.list
  have authorities := AuthorityRecord.recovers.list
  refine .record (by decide) (fun record => ?_) fun
    ⟨mediaType, logRecords, certificateAuthorities, ctLogs, timestampingAuthorities⟩ finds => ?_
  · have logs_textual (records : List LogRecord) :=
      (logs.isTextual records).mono (show 4 ≤ 5 by decide)
    exact .cons (.always (.string _))
      (.cons (.always (logs_textual _))
        (.cons (.always (authorities.isTextual _))
          (.cons (.always (logs_textual _))
            (.cons (.always (authorities.isTextual _)) .nil))))
  · refine seq_eq_ok (seq_eq_ok (seq_eq_ok (seq_eq_ok
      (map_eq_ok (Decoder.Recovers.string.member_always finds ?_))
      (logs.member_always finds ?_))
      (authorities.member_always finds ?_))
      (logs.member_always finds ?_))
      (authorities.member_always finds ?_)
    all_goals simp [memberNames]

end Countersign
