import Countersign.Proofs.Format.Blob
import Countersign.Proofs.Trust.RoundTrip

/-!
# Two ways of loading a trust root

A text can be decoded as it is spelled, or its value can be decoded.  The first way meets members in
the order of the text, repeated ones and numbers of any spelling; the second meets sorted members of
which the last counts.  Both find the same record, since a member with a meaning is never repeated,
and so they give the same trust root or fail alike.
-/

namespace Countersign

open Json Json.Decoder Json.Fields

section Records

variable {related : Document → Document → Prop}

theorem PeriodRecord.respects (corresponds : IsCorrespondence related) :
    PeriodRecord.decoder.Respects related := by
  refine .record corresponds fun found => ?_
  have text := (Respects.string corresponds).nullable corresponds fun _ => nofun
  exact .seq (.map (.member found text _ _)) (.member found text _ _)

theorem KeyRecord.respects (corresponds : IsCorrespondence related) :
    KeyRecord.decoder.Respects related := by
  refine .record corresponds fun found => ?_
  have bytes := (Blob.respects corresponds).nullable corresponds fun _ => nofun
  have period := (PeriodRecord.respects corresponds).nullable corresponds fun _ => nofun
  exact .seq (.seq (.map (.member found bytes _ _)) (.member found (.string corresponds) _ _))
    (.member found period _ _)

theorem LogRecord.respects_id (corresponds : IsCorrespondence related) :
    LogRecord.idDecoder.Respects related :=
  .single corresponds (Blob.respects corresponds) _ _

theorem LogRecord.respects (corresponds : IsCorrespondence related) :
    LogRecord.decoder.Respects related := by
  refine .record corresponds fun found => ?_
  have text := (Respects.string corresponds).nullable corresponds fun _ => nofun
  have declared := (respects_id corresponds).nullable corresponds fun _ => nofun
  exact .seq (.seq (.seq (.map (.member found (.string corresponds) _ _)) (.member found text _ _))
    (.member found (KeyRecord.respects corresponds) _ _)) (.member found declared _ _)

theorem AuthoritySubject.respects (corresponds : IsCorrespondence related) :
    AuthoritySubject.decoder.Respects related :=
  .record corresponds fun found =>
    .seq (.map (.member found (.string corresponds) _ _)) (.member found (.string corresponds) _ _)

theorem AuthorityRecord.respects_chain (corresponds : IsCorrespondence related) :
    AuthorityRecord.chainDecoder.Respects related := by
  have certificate : AuthorityRecord.certificateDecoder.Respects related :=
    .single corresponds (Blob.respects corresponds) _ _
  exact .single corresponds (certificate.list corresponds) _ _

theorem AuthorityRecord.respects (corresponds : IsCorrespondence related) :
    AuthorityRecord.decoder.Respects related := by
  refine .record corresponds fun found => ?_
  have subject := (AuthoritySubject.respects corresponds).nullable corresponds fun _ => nofun
  have period := (PeriodRecord.respects corresponds).nullable corresponds fun _ => nofun
  exact .seq (.seq (.seq (.map (.member found subject _ _))
    (.member found (.string corresponds) _ _)) (.member found (respects_chain corresponds) _ _))
    (.member found period _ _)

/-- The record of a trust root is found in every corresponding document. -/
theorem RootRecord.respects (corresponds : IsCorrespondence related) :
    RootRecord.decoder.Respects related := by
  refine .record corresponds fun found => ?_
  have logs := (LogRecord.respects corresponds).list corresponds
  have authorities := (AuthorityRecord.respects corresponds).list corresponds
  exact .seq (.seq (.seq (.seq (.map (.member found (.string corresponds) _ _))
    (.member found logs _ _)) (.member found authorities _ _)) (.member found logs _ _))
    (.member found authorities _ _)

end Records

namespace TrustRoot

variable {text : String} {value : Value} {record : RootRecord}

theorem recordOfJson_eq_ok_iff :
    recordOfJson text = .ok record ↔
      RootRecord.decoder (Text.read text).document = .ok record ∧
        (Text.read text).complete = true := by
  rw [recordOfJson, Outcome.mapError_eq_ok_iff, Text.decode_eq_ok_iff]

/-- What is decoded from a text is decoded from its value. -/
theorem decoder_eq_of_recordOfJson (parsed : valueOfText (Text.read text) = .ok value)
    (decoded : recordOfJson text = .ok record) :
    RootRecord.decoder value.toDocument = .ok record := by
  obtain ⟨-, rfl, -⟩ := valueOfText_eq_ok_iff.mp parsed
  exact RootRecord.respects isCorrespondence_ofDocument rfl (recordOfJson_eq_ok_iff.mp decoded).1

/-- A text is judged by the record of its value, and the value is kept. -/
theorem ofJson_eq_map (parsed : valueOfText (Text.read text) = .ok value)
    (decoded : RootRecord.decoder value.toDocument = .ok record) :
    ofJson text = (TrustAnchors.ofRecord record).map fun anchors => ⟨anchors, some value⟩ := by
  rw [ofJson, parsed]
  change ofValue value = _
  rw [ofValue, decoded]
  rfl

/-- The two ways of loading agree.  If a text has a value and a record, then its value has the same
record, and reading the text and judging the record either give trust roots that agree or fail with
the same error. -/
theorem loading_agrees (parsed : valueOfText (Text.read text) = .ok value)
    (decoded : recordOfJson text = .ok record) :
    RootRecord.decoder value.toDocument = .ok record ∧
      Outcome.Alike (fun root other => root.agrees other = true) (ofJson text)
        (ofRecord record) := by
  have same := decoder_eq_of_recordOfJson parsed decoded
  refine ⟨same, ?_⟩
  rw [ofJson_eq_map parsed same, ofRecord]
  exact (Outcome.alike_self _).map fun anchors _ same => by simp [agrees, ofAnchors, same]

section Sample

private def loadedKey : Document :=
  .object [("keyDetails", .string "RSA"), ("rawBytes", .string "AQ=="), ("validFor", .null),
    ("note", .bool true)]

private def loaded : Document :=
  .object [("note", .null), ("mediaType", .string RootVersion.v0_2.mediaType),
    ("tlogs", .array [.array [.string "", .null, loadedKey]]), ("note", .array [])]

private def loadedRecord : RootRecord where
  mediaType := RootVersion.v0_2.mediaType
  logs := [⟨"", none, ⟨some [1], "RSA", none⟩, none⟩]
  certificateAuthorities := []
  ctLogs := []
  timestampingAuthorities := []

private theorem isSpelled_loaded : loaded.IsSpelled := by
  have key : loadedKey.IsSpelled := by
    refine .object ?_
    simp only [List.forall_mem_cons]
    exact ⟨.string _, .string _, .null, .bool _, nofun⟩
  have log : (Document.array [.string "", .null, loadedKey]).IsSpelled := by
    refine .array ?_
    simp only [List.forall_mem_cons]
    exact ⟨.string _, .null, key, nofun⟩
  refine .object ?_
  simp only [List.forall_mem_cons]
  exact ⟨.null, .string _, .array (List.forall_mem_singleton.mpr log), .array nofun, nofun⟩

/-- A repeated member without a meaning, members that are null, and a log as an array. -/
theorem loading_agrees_sample :
    ∃ value record, valueOfText (Text.read loaded.compact) = .ok value ∧
      recordOfJson loaded.compact = .ok record ∧
      RootRecord.decoder value.toDocument = .ok record ∧
      Outcome.Alike (fun root other => root.agrees other = true) (ofJson loaded.compact)
        (ofRecord record) ∧
      ∃ root, ofRecord record = .ok root := by
  have read := Text.read_compact isSpelled_loaded
  have parsed : valueOfText (Text.read loaded.compact) = .ok (Value.ofDocument loaded) := by
    rw [read]
    exact valueOfText_eq_ok_iff.mpr ⟨by decide +kernel, rfl, rfl⟩
  have decoded : recordOfJson loaded.compact = .ok loadedRecord := by
    rw [recordOfJson_eq_ok_iff, read]
    exact ⟨by decide +kernel, rfl⟩
  have valid : ∀ log ∈ loadedRecord.ctLogs ++ loadedRecord.logs, log.IsValid :=
    List.forall_mem_singleton.mpr ⟨⟨[1], rfl, by decide⟩, nofun⟩
  obtain ⟨anchors, judged⟩ := TrustAnchors.exists_ofRecord_of_isValid
    ⟨.inr rfl, List.forall_mem_nil _, valid, .nil, .nil, .nil, List.nodup_singleton _⟩
  obtain ⟨same, alike⟩ := loading_agrees parsed decoded
  exact ⟨_, _, parsed, decoded, same, alike, _, Outcome.map_eq_ok_iff.mpr ⟨anchors, judged, rfl⟩⟩

end Sample

end TrustRoot
end Countersign
