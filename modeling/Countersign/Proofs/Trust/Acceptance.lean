import Countersign.Proofs.Trust.Entry
import Countersign.Proofs.Trust.EntryTable
import Countersign.Trust.Root

/-!
# Which trust roots are accepted

A record is accepted as a trust root exactly when its media type names a version, each of its
entries is valid, and no identifier stands for two entries of one category.  Every refusal is a
fault of the input that belongs to exactly one of the two groups of such faults.
-/

namespace Countersign

open Json

namespace RootVersion

theorem ofMediaType_eq_ok_iff {text : String} {version : RootVersion} :
    ofMediaType text = .ok version ↔ text = version.mediaType := by
  unfold ofMediaType
  split
  · rename_i same
    cases same
    cases version <;> simp [mediaType]
  · split
    · rename_i same
      cases same
      cases version <;> simp [mediaType]
    · rename_i first second
      cases version
      · simp [first]
      · simp [second]

theorem exists_ofMediaType_iff {text : String} :
    (∃ version, ofMediaType text = .ok version) ↔
      text = mediaType v0_1 ∨ text = mediaType v0_2 := by
  simp only [ofMediaType_eq_ok_iff]
  constructor
  · rintro ⟨version, rfl⟩
    cases version
    · exact .inl rfl
    · exact .inr rfl
  · rintro (same | same)
    · exact ⟨v0_1, same⟩
    · exact ⟨v0_2, same⟩

theorem ofMediaType_eq_error {text : String} {error : TrustError}
    (failed : ofMediaType text = .error error) : error.IsInputFault := by
  unfold ofMediaType at failed
  split at failed
  · cases failed
  · split at failed
    · cases failed
    · cases failed
      exact TrustError.isInputFault_iff.mpr (.inr rfl)

end RootVersion

/-- A valid trust root as it is written. -/
structure RootRecord.IsValid (record : RootRecord) : Prop where
  /-- The media type is that of a version. -/
  mediaType : record.mediaType = RootVersion.mediaType .v0_1 ∨
    record.mediaType = RootVersion.mediaType .v0_2
  /-- Every authority is valid. -/
  authorities : ∀ authority ∈ record.certificateAuthorities ++ record.timestampingAuthorities,
    authority.IsValid
  /-- Every log is valid. -/
  logs : ∀ log ∈ record.ctLogs ++ record.logs, log.IsValid
  /-- No two certificate authorities share an identifier. -/
  certificateAuthorities_nodup : (record.certificateAuthorities.map AuthorityRecord.id?).Nodup
  /-- No two logs of certificates share an identifier. -/
  ctLogs_nodup : (record.ctLogs.map LogRecord.id?).Nodup
  /-- No two timestamping authorities share an identifier. -/
  timestampingAuthorities_nodup : (record.timestampingAuthorities.map AuthorityRecord.id?).Nodup
  /-- No two logs of signatures share an identifier. -/
  logs_nodup : (record.logs.map LogRecord.id?).Nodup

namespace TrustAnchors

/-- The records of the authorities of a category describe these authorities. -/
def DescribesAuthorities {α : Type} (authority : α → Authority) :
    List AuthorityRecord → List α → Prop :=
  List.Forall₂ fun record entry => Authority.ofRecord record = .ok (authority entry)

/-- The records of the logs of a category describe these logs. -/
def DescribesLogs : List LogRecord → List TransparencyLog → Prop :=
  List.Forall₂ fun record log => TransparencyLog.ofRecord record = .ok log

theorem tableOf_eq_ok_iff {α : Type} {category : EntryCategory} {id : α → String}
    {entries : List α} {table : EntryTable id} :
    tableOf category id entries = .ok table ↔ table.entries = entries := by
  rw [tableOf, Outcome.mapError_eq_ok_iff, EntryTable.ofEntries_eq_ok_iff]

theorem tableOf_eq_error {α : Type} {category : EntryCategory} {id : α → String}
    {entries : List α} {error : TrustError}
    (failed : tableOf category id entries = .error error) : error.IsInputFault := by
  obtain ⟨repeated, -, rfl⟩ := Outcome.mapError_eq_error_iff.mp failed
  exact TrustError.isInputFault_iff.mpr (.inr rfl)

theorem ofParts_eq_ok_iff {mediaType : String} {certificateAuthorities : List CertificateAuthority}
    {ctLogs : List TransparencyLog} {timestampingAuthorities : List TimestampingAuthority}
    {logs : List TransparencyLog} {anchors : TrustAnchors} :
    ofParts mediaType certificateAuthorities ctLogs timestampingAuthorities logs = .ok anchors ↔
      mediaType = anchors.version.mediaType ∧
        anchors.certificateAuthorities = certificateAuthorities ∧ anchors.ctLogs = ctLogs ∧
        anchors.timestampingAuthorities = timestampingAuthorities ∧ anchors.logs = logs := by
  simp only [ofParts, Outcome.bind_eq_ok_iff, RootVersion.ofMediaType_eq_ok_iff, tableOf_eq_ok_iff]
  constructor
  · rintro ⟨version, version_eq, _, rfl, _, rfl, _, rfl, _, rfl, done⟩
    cases done
    exact ⟨version_eq, rfl, rfl, rfl, rfl⟩
  · rintro ⟨version_eq, rfl, rfl, rfl, rfl⟩
    exact ⟨_, version_eq, _, rfl, _, rfl, _, rfl, _, rfl, rfl⟩

theorem ofParts_eq_error {mediaType : String} {certificateAuthorities : List CertificateAuthority}
    {ctLogs : List TransparencyLog} {timestampingAuthorities : List TimestampingAuthority}
    {logs : List TransparencyLog} {error : TrustError}
    (failed : ofParts mediaType certificateAuthorities ctLogs timestampingAuthorities logs =
      .error error) :
    error.IsInputFault := by
  rcases Outcome.bind_eq_error_iff.mp failed with failed | ⟨_, -, failed⟩
  · exact RootVersion.ofMediaType_eq_error failed
  rcases Outcome.bind_eq_error_iff.mp failed with failed | ⟨_, -, failed⟩
  · exact tableOf_eq_error failed
  rcases Outcome.bind_eq_error_iff.mp failed with failed | ⟨_, -, failed⟩
  · exact tableOf_eq_error failed
  rcases Outcome.bind_eq_error_iff.mp failed with failed | ⟨_, -, failed⟩
  · exact tableOf_eq_error failed
  rcases Outcome.bind_eq_error_iff.mp failed with failed | ⟨_, -, failed⟩
  · exact tableOf_eq_error failed
  · cases failed

theorem map_mk_certificateAuthority (authorities : List CertificateAuthority) :
    (authorities.map (·.toAuthority)).map CertificateAuthority.mk = authorities := by
  rw [List.map_map]
  exact List.map_id authorities

theorem map_mk_timestampingAuthority (authorities : List TimestampingAuthority) :
    (authorities.map (·.toAuthority)).map TimestampingAuthority.mk = authorities := by
  rw [List.map_map]
  exact List.map_id authorities

/-- A record gives trust anchors when it names their version and describes their entries. -/
theorem ofRecord_eq_ok_iff {record : RootRecord} {anchors : TrustAnchors} :
    ofRecord record = .ok anchors ↔
      record.mediaType = anchors.version.mediaType ∧
        DescribesAuthorities CertificateAuthority.toAuthority record.certificateAuthorities
          anchors.certificateAuthorities ∧
        DescribesLogs record.ctLogs anchors.ctLogs ∧
        DescribesAuthorities TimestampingAuthority.toAuthority record.timestampingAuthorities
          anchors.timestampingAuthorities ∧
        DescribesLogs record.logs anchors.logs := by
  simp only [ofRecord, Outcome.bind_eq_ok_iff, RootVersion.ofMediaType_eq_ok_iff,
    Outcome.mapM_eq_ok_iff, ofParts_eq_ok_iff, DescribesAuthorities, DescribesLogs]
  constructor
  · rintro ⟨_, -, authorities, authorities_ok, _, ctLogs_ok, stampers, stampers_ok, _, logs_ok,
      version_eq, authorities_eq, rfl, stampers_eq, rfl⟩
    rw [authorities_eq, stampers_eq]
    exact ⟨version_eq, by simpa using authorities_ok, ctLogs_ok, by simpa using stampers_ok,
      logs_ok⟩
  · rintro ⟨version_eq, authorities_ok, ctLogs_ok, stampers_ok, logs_ok⟩
    exact ⟨_, version_eq, anchors.certificateAuthorities.map (·.toAuthority),
      by simpa using authorities_ok, _, ctLogs_ok,
      anchors.timestampingAuthorities.map (·.toAuthority), by simpa using stampers_ok, _, logs_ok,
      version_eq, (map_mk_certificateAuthority _).symm, rfl, (map_mk_timestampingAuthority _).symm,
      rfl⟩

theorem ofRecord_eq_error {record : RootRecord} {error : TrustError}
    (failed : ofRecord record = .error error) : error.IsInputFault := by
  have authority_fault {records : List AuthorityRecord}
      (failed : records.mapM Authority.ofRecord = .error error) : error.IsInputFault := by
    obtain ⟨_, -, record_failed⟩ := Outcome.mapM_eq_error failed
    exact Authority.ofRecord_eq_error record_failed
  have log_fault {records : List LogRecord}
      (failed : records.mapM TransparencyLog.ofRecord = .error error) : error.IsInputFault := by
    obtain ⟨_, -, record_failed⟩ := Outcome.mapM_eq_error failed
    exact TransparencyLog.ofRecord_eq_error record_failed
  rcases Outcome.bind_eq_error_iff.mp failed with failed | ⟨_, -, failed⟩
  · exact RootVersion.ofMediaType_eq_error failed
  rcases Outcome.bind_eq_error_iff.mp failed with failed | ⟨_, -, failed⟩
  · exact authority_fault failed
  rcases Outcome.bind_eq_error_iff.mp failed with failed | ⟨_, -, failed⟩
  · exact log_fault failed
  rcases Outcome.bind_eq_error_iff.mp failed with failed | ⟨_, -, failed⟩
  · exact authority_fault failed
  rcases Outcome.bind_eq_error_iff.mp failed with failed | ⟨_, -, failed⟩
  · exact log_fault failed
  · exact ofParts_eq_error failed

private theorem ids_of_authorities {α : Type} {authority : α → Authority}
    {records : List AuthorityRecord} {entries : List α}
    (described : DescribesAuthorities authority records entries) :
    records.map AuthorityRecord.id? = (entries.map fun entry => (authority entry).id).map some := by
  induction described with
  | nil => rfl
  | cons first _ ih => simp [Authority.id?_eq_of_ofRecord first, ih]

private theorem ids_of_logs {records : List LogRecord} {logs : List TransparencyLog}
    (described : DescribesLogs records logs) :
    records.map LogRecord.id? = (logs.map TransparencyLog.id).map some := by
  induction described with
  | nil => rfl
  | cons first _ ih => simp [TransparencyLog.id?_eq_of_ofRecord first, ih]

private theorem nodup_map_some_iff {ids : List String} : (ids.map some).Nodup ↔ ids.Nodup :=
  List.nodup_map_iff fun _ _ => Option.some.inj

private theorem exists_table_iff {α : Type} {id : α → String} {entries : List α} :
    (∃ table : EntryTable id, table.entries = entries) ↔ (entries.map id).Nodup := by
  constructor
  · rintro ⟨table, rfl⟩
    exact table.ids_nodup
  · intro distinct
    obtain ⟨index, index_eq⟩ := EntryIndex.exists_ofIds_iff.mpr distinct
    exact ⟨⟨entries, index, index_eq⟩, rfl⟩

private theorem exists_authorities_iff {α : Type} {authority : α → Authority}
    (make : Authority → α) (authority_make : ∀ value, authority (make value) = value)
    {records : List AuthorityRecord} :
    (∃ entries, DescribesAuthorities authority records entries) ↔
      ∀ record ∈ records, record.IsValid := by
  simp only [← Authority.exists_ofRecord_iff, ← Outcome.exists_mapM_eq_ok_iff,
    Outcome.mapM_eq_ok_iff]
  constructor
  · rintro ⟨entries, described⟩
    exact ⟨entries.map authority, List.forall₂_map_right_iff.mpr described⟩
  · rintro ⟨values, described⟩
    refine ⟨values.map make, List.forall₂_map_right_iff.mpr ?_⟩
    simpa [authority_make] using described

private theorem exists_logs_iff {records : List LogRecord} :
    (∃ logs, DescribesLogs records logs) ↔ ∀ record ∈ records, record.IsValid := by
  simp only [← TransparencyLog.exists_ofRecord_iff, ← Outcome.exists_mapM_eq_ok_iff,
    Outcome.mapM_eq_ok_iff, DescribesLogs]

private theorem exists_certificateAuthorities_iff {records : List AuthorityRecord} :
    (∃ entries, DescribesAuthorities CertificateAuthority.toAuthority records entries) ↔
      ∀ record ∈ records, record.IsValid :=
  exists_authorities_iff CertificateAuthority.mk fun _ => rfl

private theorem exists_timestampingAuthorities_iff {records : List AuthorityRecord} :
    (∃ entries, DescribesAuthorities TimestampingAuthority.toAuthority records entries) ↔
      ∀ record ∈ records, record.IsValid :=
  exists_authorities_iff TimestampingAuthority.mk fun _ => rfl

theorem isValid_of_ofRecord {record : RootRecord} {anchors : TrustAnchors}
    (accepted : ofRecord record = .ok anchors) : record.IsValid := by
  obtain ⟨version_eq, authorities, ctLogs, stampers, logs⟩ := ofRecord_eq_ok_iff.mp accepted
  constructor
  case mediaType =>
    rw [← RootVersion.exists_ofMediaType_iff]
    exact ⟨anchors.version, RootVersion.ofMediaType_eq_ok_iff.mpr version_eq⟩
  case authorities =>
    intro authority member
    rcases List.mem_append.mp member with member | member
    · exact exists_certificateAuthorities_iff.mp ⟨_, authorities⟩ authority member
    · exact exists_timestampingAuthorities_iff.mp ⟨_, stampers⟩ authority member
  case logs =>
    intro log member
    rcases List.mem_append.mp member with member | member
    · exact exists_logs_iff.mp ⟨_, ctLogs⟩ log member
    · exact exists_logs_iff.mp ⟨_, logs⟩ log member
  case certificateAuthorities_nodup =>
    rw [ids_of_authorities authorities, nodup_map_some_iff]
    exact anchors.certificateAuthorityTable.ids_nodup
  case ctLogs_nodup =>
    rw [ids_of_logs ctLogs, nodup_map_some_iff]
    exact anchors.ctLogTable.ids_nodup
  case timestampingAuthorities_nodup =>
    rw [ids_of_authorities stampers, nodup_map_some_iff]
    exact anchors.timestampingAuthorityTable.ids_nodup
  case logs_nodup =>
    rw [ids_of_logs logs, nodup_map_some_iff]
    exact anchors.logTable.ids_nodup

theorem exists_ofRecord_of_isValid {record : RootRecord} (valid : record.IsValid) :
    ∃ anchors, ofRecord record = .ok anchors := by
  obtain ⟨version, version_eq⟩ := RootVersion.exists_ofMediaType_iff.mpr valid.mediaType
  obtain ⟨authorities, authorities_ok⟩ := exists_certificateAuthorities_iff.mpr
    fun record member => valid.authorities record (List.mem_append_left _ member)
  obtain ⟨stampers, stampers_ok⟩ := exists_timestampingAuthorities_iff.mpr
    fun record member => valid.authorities record (List.mem_append_right _ member)
  obtain ⟨ctLogs, ctLogs_ok⟩ := exists_logs_iff.mpr
    fun record member => valid.logs record (List.mem_append_left _ member)
  obtain ⟨logs, logs_ok⟩ := exists_logs_iff.mpr
    fun record member => valid.logs record (List.mem_append_right _ member)
  obtain ⟨authorityTable, rfl⟩ := exists_table_iff.mpr
    (nodup_map_some_iff.mp (ids_of_authorities authorities_ok ▸ valid.certificateAuthorities_nodup))
  obtain ⟨stamperTable, rfl⟩ := exists_table_iff.mpr
    (nodup_map_some_iff.mp (ids_of_authorities stampers_ok ▸ valid.timestampingAuthorities_nodup))
  obtain ⟨ctLogTable, rfl⟩ := exists_table_iff.mpr
    (nodup_map_some_iff.mp (ids_of_logs ctLogs_ok ▸ valid.ctLogs_nodup))
  obtain ⟨logTable, rfl⟩ := exists_table_iff.mpr
    (nodup_map_some_iff.mp (ids_of_logs logs_ok ▸ valid.logs_nodup))
  exact ⟨⟨version, authorityTable, ctLogTable, stamperTable, logTable⟩, ofRecord_eq_ok_iff.mpr
    ⟨RootVersion.ofMediaType_eq_ok_iff.mp version_eq, authorities_ok, ctLogs_ok, stampers_ok,
      logs_ok⟩⟩

end TrustAnchors

namespace TrustRoot

theorem valueOfText_eq_error {text : Text} {error : TrustError}
    (failed : valueOfText text = .error error) : error.IsInputFault := by
  unfold valueOfText at failed
  split at failed
  · split at failed <;> cases failed
    exact TrustError.isInputFault_iff.mpr (.inl rfl)
  · cases failed
    exact TrustError.isInputFault_iff.mpr (.inl rfl)

theorem ofValue_eq_error {value : Value} {error : TrustError}
    (failed : ofValue value = .error error) : error.IsInputFault := by
  rcases Outcome.bind_eq_error_iff.mp failed with failed | ⟨record, -, failed⟩
  · obtain ⟨cause, -, rfl⟩ := Outcome.mapError_eq_error_iff.mp failed
    exact TrustError.isInputFault_iff.mpr (.inl rfl)
  rcases Outcome.bind_eq_error_iff.mp failed with failed | ⟨anchors, -, done⟩
  · exact TrustAnchors.ofRecord_eq_error failed
  · cases done

/-- A record is accepted exactly when it is valid, and every fault that is found in a record or in a
text is a fault of the input, in exactly one of the two groups. -/
theorem acceptance :
    (∀ record : RootRecord, (∃ root, ofRecord record = .ok root) ↔ record.IsValid) ∧
      (∀ record error, ofRecord record = .error error → error.IsInputFault) ∧
      ∀ text error, ofJson text = .error error → error.IsInputFault := by
  refine ⟨fun record => ?_, fun record error failed => ?_, fun text error failed => ?_⟩
  · constructor
    · rintro ⟨root, accepted⟩
      obtain ⟨anchors, anchors_ok, -⟩ := Outcome.map_eq_ok_iff.mp accepted
      exact TrustAnchors.isValid_of_ofRecord anchors_ok
    · intro valid
      obtain ⟨anchors, accepted⟩ := TrustAnchors.exists_ofRecord_of_isValid valid
      exact ⟨ofAnchors anchors, Outcome.map_eq_ok_iff.mpr ⟨anchors, accepted, rfl⟩⟩
  · exact TrustAnchors.ofRecord_eq_error (Outcome.map_eq_error_iff.mp failed)
  · rcases Outcome.bind_eq_error_iff.mp failed with unread | ⟨value, -, refused⟩
    · exact valueOfText_eq_error unread
    · exact ofValue_eq_error refused

private def keylessRecord : RootRecord where
  mediaType := RootVersion.mediaType .v0_2
  logs := [⟨"", some "MD5", ⟨some [], "RSA", some ⟨some "yesterday", none⟩⟩, none⟩]
  certificateAuthorities := []
  ctLogs := []
  timestampingAuthorities := []

/-- Of a log without a key whose period cannot be read either, the missing key is the fault, and a
text that stops early cannot be decoded. -/
theorem acceptance_refusals :
    (∃ error, ofRecord keylessRecord = .error error ∧ error.IsInputFault) ∧
      ∃ error, ofJson "[" = .error error ∧ error.IsInputFault :=
  ⟨⟨.malformed .keylessLog, rfl, acceptance.2.1 keylessRecord _ rfl⟩,
    ⟨.json .malformed, by cbv, acceptance.2.2 "[" _ (by cbv)⟩⟩

end TrustRoot
end Countersign
