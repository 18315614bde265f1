import Countersign.Proofs.Time.Timestamp
import Countersign.Proofs.Trust.Entry
import Countersign.Proofs.Trust.Record

/-!
# Entries of a trust root persist

What is written for a period, a log or an authority is read as that entry again, over whatever
document it was read from: fields that are left out were absent, null or empty there.
-/

namespace Countersign

open Json Json.Value Json.Decoder

namespace ValidityPeriod

/-- A period whose ends have years that four digits can spell. -/
structure HasFourDigitYears (validity : ValidityPeriod) : Prop where
  start : ∀ first, validity.start? = some first → first.HasFourDigitYear
  finish : ∀ last, validity.finish? = some last → last.HasFourDigitYear

/-- A text that denotes an instant. -/
def Denotes (text : String) (instant : Instant) : Prop :=
  Timestamp.read? text = some instant ∧ instant.HasFourDigitYear

theorem persists_instant (missing : Except DecodeError String) :
    Persists missing string Denotes fun instant => some (.string (Timestamp.write instant)) := by
  intro base? text instant _ denotes
  rw [patchMember?_string]
  exact ⟨_, string_eq_ok_iff.mpr rfl, Timestamp.read?_write_of_read? denotes.1 denotes.2, denotes.2⟩

theorem optionRel_denotes_iff {text? : Option String} {instant? : Option Instant} :
    Option.Rel Denotes text? instant? ↔
      text?.map Timestamp.read? = instant?.map some ∧
        ∀ instant, instant? = some instant → instant.HasFourDigitYear := by
  constructor
  · intro related
    cases related with
    | none => exact ⟨rfl, fun _ impossible => nomatch impossible⟩
    | some denotes =>
      refine ⟨congrArg some denotes.1, fun instant same => ?_⟩
      cases same
      exact denotes.2
  · rintro ⟨read, four_digits⟩
    cases text? with
    | none =>
      cases instant? with
      | none => exact .none
      | some instant => cases read
    | some text =>
      cases instant? with
      | none => cases read
      | some instant => exact .some ⟨Option.some.inj read, four_digits instant rfl⟩

/-- What is written for a period. -/
def written? (validity : ValidityPeriod) : Option Value :=
  validity.toRecord.map fun record => .object record.written

theorem toRecord_eq_none_iff {validity : ValidityPeriod} :
    validity.toRecord = none ↔ validity = {} := by
  obtain ⟨start?, finish?⟩ := validity
  cases start? <;> cases finish? <;> simp [toRecord]

/-- The record of a period is described by that record. -/
def Describes (record? : Option PeriodRecord) (validity : ValidityPeriod) : Prop :=
  ofRecord record? = .ok validity ∧ validity.HasFourDigitYears

theorem describes_none : Describes none {} :=
  ⟨rfl, ⟨fun _ => nofun, fun _ => nofun⟩⟩

theorem describes_some_iff {record : PeriodRecord} {validity : ValidityPeriod} :
    Describes (some record) validity ↔
      Option.Rel Denotes record.start? validity.start? ∧
        Option.Rel Denotes record.finish? validity.finish? ∧
        ∀ first last, validity.start? = some first → validity.finish? = some last →
          ¬last < first := by
  rw [Describes, ofRecord, ofTimestamps_eq_ok_iff, optionRel_denotes_iff, optionRel_denotes_iff]
  constructor
  · rintro ⟨⟨start, finish, ordered⟩, years⟩
    exact ⟨⟨start, years.start⟩, ⟨finish, years.finish⟩, ordered⟩
  · rintro ⟨⟨start, start_years⟩, ⟨finish, finish_years⟩, ordered⟩
    exact ⟨⟨start, finish, ordered⟩, start_years, finish_years⟩

theorem record_eq_of_toRecord {validity : ValidityPeriod} {record : PeriodRecord}
    (record_eq : validity.toRecord = some record) :
    record = ⟨validity.start?.map Timestamp.write, validity.finish?.map Timestamp.write⟩ := by
  rw [toRecord] at record_eq
  split at record_eq
  · cases record_eq
  · exact (Option.some.inj record_eq).symm

private theorem persists_record {base? : Option Value} {record written : PeriodRecord}
    {validity : ValidityPeriod}
    (source : IsSource (.error .malformed) PeriodRecord.decoder base? record)
    (described : Describes (some record) validity) (record_eq : validity.toRecord = some written) :
    ∃ again, PeriodRecord.decoder.optionally (.error .malformed)
        (patchMember? base? (some (.object written.written))) = .ok again ∧
      Describes (some again) validity := by
  obtain rfl := record_eq_of_toRecord record_eq
  obtain ⟨start_denoted, finish_denoted, in_order⟩ := describes_some_iff.mp described
  obtain ⟨members, distinct, ordered, read, part_of⟩ := source.exists_members (by decide)
  have fields := (PeriodRecord.fields_eq_ok_iff distinct).mp read
  have persists_ends := (persists_instant (.error .malformed)).nullable fun _ => nofun
  obtain ⟨start?, start_read, start_again⟩ :=
    persists_ends (IsSource.ofMember part_of (ordered _) fields.start) start_denoted
  obtain ⟨finish?, finish_read, finish_again⟩ :=
    persists_ends (IsSource.ofMember part_of (ordered _) fields.finish) finish_denoted
  have written_sorted := PeriodRecord.isSorted_written
    ⟨validity.start?.map Timestamp.write, validity.finish?.map Timestamp.write⟩
  have patched_sorted := isSorted_patchMembers source.areOrdered.isSorted_ownMembers
    (PeriodRecord.written
      ⟨validity.start?.map Timestamp.write, validity.finish?.map Timestamp.write⟩)
  refine ⟨⟨start?, finish?⟩, (record_patch_eq_ok_iff written_sorted).mpr
    ((PeriodRecord.fields_eq_ok_iff patched_sorted.nodup).mpr ⟨?start, ?finish⟩),
    describes_some_iff.mpr ⟨start_again, finish_again, in_order⟩⟩
  case start =>
    rw [lookup?_patchMembers _ written_sorted.nodup, PeriodRecord.lookup?_written]
    simpa [Function.comp_def] using start_read
  case finish =>
    rw [lookup?_patchMembers _ written_sorted.nodup, PeriodRecord.lookup?_written]
    simpa [Function.comp_def] using finish_read

/-- A period persists; where it is left out, the document had no ends for it either. -/
theorem persists :
    Persists (.ok none) (nullable PeriodRecord.decoder) Describes written? := by
  intro base? record? validity source described
  rw [written?]
  cases record_eq : validity.toRecord with
  | none =>
    obtain rfl := toRecord_eq_none_iff.mp record_eq
    rw [Option.map_none, patchMember?_none]
    obtain ⟨whole?, -, read, rfl | rfl⟩ := source
    · exact ⟨none, rfl, describes_none⟩
    · exact ⟨record?, read, described⟩
  | some written =>
    cases record? with
    | none =>
      obtain ⟨read, -⟩ := described
      cases read
      cases record_eq
    | some record =>
      obtain ⟨again, read, described_again⟩ :=
        persists_record source.of_nullable described record_eq
      exact ⟨some again, (nullable_patch_eq_ok_some_iff written.isSorted_written).mpr read,
        described_again⟩

end ValidityPeriod

theorem KeyDetails.name_ofName (name : String) : (ofName name).name = name := by
  rw [ofName]
  cases found : recognized.find? fun details => details.name = name with
  | none => rfl
  | some details => simpa using List.find?_some found

/-- The key of a log is described by a record. -/
structure KeyRecord.Describes (key : KeyRecord) (log : TransparencyLog) : Prop where
  publicKey : key.publicKey? = some log.publicKey
  details : key.details = log.keyDetails.name
  period : ValidityPeriod.ofRecord key.period? = .ok log.validity

theorem KeyRecord.persists :
    Persists (.error .malformed) decoder
      (fun key log => key.Describes log ∧ log.validity.HasFourDigitYears)
      fun log => some (.object log.toRecord.key.written) := by
  rintro base? key log source ⟨described, years⟩
  obtain ⟨members, distinct, ordered, read, part_of⟩ := source.exists_members (by decide)
  have fields := (fields_eq_ok_iff distinct).mp read
  obtain ⟨_, publicKey_read, rfl⟩ := (Blob.persists (.error .malformed)).nullable_eq
    (fun _ => nofun) (IsSource.ofMember part_of (ordered _) fields.publicKey) described.publicKey
  obtain ⟨_, details_read, rfl⟩ :=
    persists_text (IsSource.ofMember part_of (ordered _) fields.details) described.details
  obtain ⟨period?, period_read, period_again⟩ :=
    ValidityPeriod.persists (IsSource.ofMember part_of (ordered _) fields.period)
      ⟨described.period, years⟩
  have written_sorted := log.toRecord.key.isSorted_written
  have patched_sorted :=
    isSorted_patchMembers source.areOrdered.isSorted_ownMembers log.toRecord.key.written
  refine ⟨⟨some log.publicKey, log.keyDetails.name, period?⟩,
    (record_patch_eq_ok_iff written_sorted).mpr
      ((fields_eq_ok_iff patched_sorted.nodup).mpr ⟨?publicKey, ?details, ?period⟩),
    ⟨rfl, rfl, period_again.1⟩, years⟩
  case publicKey =>
    rw [lookup?_patchMembers _ written_sorted.nodup, lookup?_written]
    exact publicKey_read
  case details =>
    rw [lookup?_patchMembers _ written_sorted.nodup, lookup?_written]
    exact details_read
  case period =>
    rw [lookup?_patchMembers _ written_sorted.nodup, lookup?_written]
    exact period_read

/-- An identifier is read from what is written for it, over any document. -/
theorem LogRecord.idDecoder_patch {base? : Option Value} (ordered : AreOrdered base?)
    (keyId : Bytes) :
    (nullable idDecoder).optionally (.ok none) (patchMember? base? (some (idWritten keyId))) =
      .ok (some keyId) := by
  have keyId_read : Blob.decoder.optionally (.error .malformed)
      (patchMember? (lookup? "keyId" (ownMembers base?)) (some (Blob.written keyId))) =
        .ok keyId := by
    rw [Blob.written, patchMember?_string]
    exact Blob.decoder_eq_ok_iff.mpr rfl
  have id_read : idDecoder.optionally (.error .malformed)
      (patchMember? base? (some (idWritten keyId))) = .ok keyId :=
    (single_patch_eq_ok_iff ordered).mpr keyId_read
  exact (nullable_patch_eq_ok_some_iff (isSorted_singleton _ _)).mpr id_read

namespace TransparencyLog

/-- A log is described by a record, and its period can be written. -/
def Describes (record : LogRecord) (log : TransparencyLog) : Prop :=
  ofRecord record = .ok log ∧ log.validity.HasFourDigitYears

theorem getD_unlessEmpty? (text : String) : (unlessEmpty? text).getD "" = text := by
  rw [unlessEmpty?]
  split
  · rename_i empty
    exact (String.isEmpty_iff.mp empty).symm
  · rfl

theorem filter_declaredId (log : TransparencyLog) :
    (some (log.declaredId?.getD log.keyId)).filter
      (fun declared => declared ≠ sha256 log.publicKey) = log.declaredId? := by
  cases declared : log.declaredId? with
  | none => simp [keyId]
  | some id => simp [log.declared_ne id declared]

theorem describes_key {record : LogRecord} {log : TransparencyLog}
    (accepted : ofRecord record = .ok log) : record.key.Describes log := by
  obtain ⟨publicKey, validity, found, -, period_ok, rfl⟩ := ofRecord_eq_ok_iff.mp accepted
  exact ⟨found, (KeyDetails.name_ofName _).symm, period_ok⟩

theorem baseUrl_eq {record : LogRecord} {log : TransparencyLog}
    (accepted : ofRecord record = .ok log) : record.baseUrl = log.toRecord.baseUrl := by
  obtain ⟨_, _, _, _, _, rfl⟩ := ofRecord_eq_ok_iff.mp accepted
  exact (getD_unlessEmpty? record.baseUrl).symm

theorem hashName_eq {record : LogRecord} {log : TransparencyLog}
    (accepted : ofRecord record = .ok log) : record.hashName? = log.toRecord.hashName? := by
  obtain ⟨_, _, _, _, _, rfl⟩ := ofRecord_eq_ok_iff.mp accepted
  rfl

/-- The record that is written for a log, with any record of its key, gives the log. -/
theorem ofRecord_written {record : LogRecord} {log : TransparencyLog} {key : KeyRecord}
    (accepted : ofRecord record = .ok log) (described : key.Describes log) :
    ofRecord { log.toRecord with key := key } = .ok log := by
  obtain ⟨publicKey, validity, -, nonempty, -, rfl⟩ := ofRecord_eq_ok_iff.mp accepted
  refine ofRecord_eq_ok_iff.mpr
    ⟨publicKey, validity, described.publicKey, nonempty, described.period, ?_⟩
  have details : KeyDetails.ofName key.details = KeyDetails.ofName record.key.details :=
    congrArg KeyDetails.ofName (described.details.trans (KeyDetails.name_ofName _))
  have baseUrl : unlessEmpty? ((unlessEmpty? record.baseUrl).getD "") =
      unlessEmpty? record.baseUrl := congrArg unlessEmpty? (getD_unlessEmpty? record.baseUrl)
  have declaredId := filter_declaredId (ofParts record publicKey validity)
  simp only [ofParts, mk.injEq]
  exact ⟨trivial, details, trivial, baseUrl, rfl, declaredId⟩

theorem persists :
    Persists (.error .malformed) LogRecord.decoder Describes
      fun log => some (.object log.toRecord.written) := by
  rintro base? record log source ⟨accepted, years⟩
  obtain ⟨members, distinct, ordered, read, part_of⟩ := source.exists_members (by decide)
  have fields := (LogRecord.fields_eq_ok_iff distinct).mp read
  obtain ⟨_, baseUrl_read, rfl⟩ := persists_text
    (IsSource.ofMember part_of (ordered _) fields.baseUrl) (baseUrl_eq accepted)
  obtain ⟨_, hashName_read, rfl⟩ := (persists_string (.error .malformed)).nullable_eq
    (fun _ => nofun) (IsSource.ofMember part_of (ordered _) fields.hashName) (hashName_eq accepted)
  obtain ⟨key, key_read, key_again, -⟩ := KeyRecord.persists
    (IsSource.ofMember part_of (ordered _) fields.key) ⟨describes_key accepted, years⟩
  have id_read := LogRecord.idDecoder_patch (source.areOrdered.lookup? "logId")
    (log.declaredId?.getD log.keyId)
  have written_sorted := log.toRecord.isSorted_written
  have patched_sorted :=
    isSorted_patchMembers source.areOrdered.isSorted_ownMembers log.toRecord.written
  refine ⟨{ log.toRecord with key := key },
    (record_patch_eq_ok_iff written_sorted).mpr ((LogRecord.fields_eq_ok_iff
      patched_sorted.nodup).mpr ⟨?baseUrl, ?hashName, ?key, ?declaredId⟩),
    ofRecord_written accepted key_again, years⟩
  case baseUrl =>
    rw [lookup?_patchMembers _ written_sorted.nodup, LogRecord.lookup?_written]
    exact baseUrl_read
  case hashName =>
    rw [lookup?_patchMembers _ written_sorted.nodup, LogRecord.lookup?_written]
    exact hashName_read
  case key =>
    rw [lookup?_patchMembers _ written_sorted.nodup, LogRecord.lookup?_written]
    exact key_read
  case declaredId =>
    rw [lookup?_patchMembers _ written_sorted.nodup, LogRecord.lookup?_written]
    exact id_read

end TransparencyLog

theorem AuthoritySubject.persists :
    Persists (.error .malformed) decoder Eq fun subject => some (.object subject.written) := by
  rintro base? subject _ source rfl
  obtain ⟨members, distinct, ordered, read, part_of⟩ := source.exists_members (by decide)
  have fields := (fields_eq_ok_iff distinct).mp read
  obtain ⟨_, organization_read, rfl⟩ :=
    persists_text (IsSource.ofMember part_of (ordered _) fields.organization) rfl
  obtain ⟨_, commonName_read, rfl⟩ :=
    persists_text (IsSource.ofMember part_of (ordered _) fields.commonName) rfl
  have written_sorted := subject.isSorted_written
  have patched_sorted :=
    isSorted_patchMembers source.areOrdered.isSorted_ownMembers subject.written
  refine ⟨subject, (record_patch_eq_ok_iff written_sorted).mpr
    ((fields_eq_ok_iff patched_sorted.nodup).mpr ⟨?organization, ?commonName⟩), rfl⟩
  case organization =>
    rw [lookup?_patchMembers _ written_sorted.nodup, lookup?_written]
    exact organization_read
  case commonName =>
    rw [lookup?_patchMembers _ written_sorted.nodup, lookup?_written]
    exact commonName_read

theorem AuthorityRecord.persists_chain :
    Persists (.error .malformed) chainDecoder Eq fun chain => some (chainWritten chain) :=
  have certificate : Persists (.error .malformed) certificateDecoder Eq
      fun der => some (certificateWritten der) :=
    (Blob.persists (.error .malformed)).single
  certificate.list_eq.single

namespace Authority

/-- An authority is described by a record, and its period can be written. -/
def Describes (record : AuthorityRecord) (authority : Authority) : Prop :=
  ofRecord record = .ok authority ∧ authority.validity.HasFourDigitYears

theorem getD_uri {uri : String} {uri? : Option String}
    (uri_eq : uri? = if uri.isEmpty then none else some uri) : uri = uri?.getD "" := by
  rw [uri_eq]
  exact (TransparencyLog.getD_unlessEmpty? uri).symm

theorem persists :
    Persists (.error .malformed) AuthorityRecord.decoder Describes
      fun authority => some (.object authority.toRecord.written) := by
  rintro base? record authority source ⟨accepted, years⟩
  obtain ⟨members, distinct, ordered, read, part_of⟩ := source.exists_members (by decide)
  have fields := (AuthorityRecord.fields_eq_ok_iff distinct).mp read
  obtain ⟨chain_eq, period_ok, uri_eq, subject_eq⟩ := ofRecord_eq_ok_iff.mp accepted
  obtain ⟨_, subject_read, rfl⟩ := AuthoritySubject.persists.nullable_eq (fun _ => nofun)
    (IsSource.ofMember part_of (ordered _) fields.subject) subject_eq.symm
  obtain ⟨_, uri_read, rfl⟩ :=
    persists_text (IsSource.ofMember part_of (ordered _) fields.uri) (getD_uri uri_eq)
  obtain ⟨_, chain_read, rfl⟩ := AuthorityRecord.persists_chain
    (IsSource.ofMember part_of (ordered _) fields.chain) chain_eq.symm
  obtain ⟨period?, period_read, period_again⟩ :=
    ValidityPeriod.persists (IsSource.ofMember part_of (ordered _) fields.period)
      ⟨period_ok, years⟩
  have written_sorted := authority.toRecord.isSorted_written
  have patched_sorted :=
    isSorted_patchMembers source.areOrdered.isSorted_ownMembers authority.toRecord.written
  refine ⟨{ authority.toRecord with period? := period? },
    (record_patch_eq_ok_iff written_sorted).mpr ((AuthorityRecord.fields_eq_ok_iff
      patched_sorted.nodup).mpr ⟨?subject, ?uri, ?chain, ?period⟩),
    ofRecord_eq_ok_iff.mpr ⟨rfl, period_again.1, ?uri_again, rfl⟩, years⟩
  case uri_again =>
    have uri_written : record.uri = authority.toRecord.uri := getD_uri uri_eq
    rw [uri_eq, uri_written]
  case subject =>
    rw [lookup?_patchMembers _ written_sorted.nodup, AuthorityRecord.lookup?_written]
    exact subject_read
  case uri =>
    rw [lookup?_patchMembers _ written_sorted.nodup, AuthorityRecord.lookup?_written]
    exact uri_read
  case chain =>
    rw [lookup?_patchMembers _ written_sorted.nodup, AuthorityRecord.lookup?_written]
    exact chain_read
  case period =>
    rw [lookup?_patchMembers _ written_sorted.nodup, AuthorityRecord.lookup?_written]
    exact period_read

end Authority
end Countersign
