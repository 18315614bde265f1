import Countersign.Proofs.Trust.Chain
import Countersign.Trust.Authority
import Countersign.Trust.Log

/-!
# Which records describe an entry

A record of a period, a log or an authority is accepted exactly when it is valid as it is written,
and the faults found in it are faults of the input.  Declared names of algorithms play no part.
-/

namespace Countersign

open Json

namespace TrustError

/-- A fault of the input: either it cannot be decoded or it describes no trust root, and it is not
about the use of an entry. -/
structure IsInputFault (error : TrustError) : Prop where
  /-- The fault belongs to exactly one of the two groups. -/
  oneGroup : (error.isDecodeFailure ^^ error.isMalformed) = true
  /-- It is not about an algorithm. -/
  not_algorithm : ∀ fault, error ≠ .algorithm fault
  /-- It is not about a key. -/
  not_key : ∀ log? fault, error ≠ .key log? fault
  /-- It is not about a lookup. -/
  not_keyNotFound : ∀ id, error ≠ .keyNotFound id

/-- The two groups of faults of the input are disjoint, and no fault of use belongs to them. -/
theorem isInputFault_iff {error : TrustError} :
    error.IsInputFault ↔ error.isDecodeFailure = true ∨ error.isMalformed = true := by
  constructor
  · intro fault
    have oneGroup := fault.oneGroup
    cases decoding : error.isDecodeFailure
    · exact .inr (by simpa [decoding] using oneGroup)
    · exact .inl rfl
  · intro group
    cases error <;> constructor <;> simp [isDecodeFailure, isMalformed] at group ⊢

end TrustError

theorem Instant.ofTimestamp_eq_ok_iff {text : String} {instant : Instant} :
    Instant.ofTimestamp text = .ok instant ↔ Timestamp.read? text = some instant := by
  unfold Instant.ofTimestamp
  cases Timestamp.read? text <;> simp

theorem Instant.ofTimestamp_eq_error {text : String} {error : TrustError}
    (failed : Instant.ofTimestamp text = .error error) : error.IsInputFault := by
  unfold Instant.ofTimestamp at failed
  split at failed <;> cases failed
  exact TrustError.isInputFault_iff.mpr (.inl rfl)

/-- A period that can be read: its ends are timestamps and in order. -/
structure PeriodRecord.IsValid (record : PeriodRecord) : Prop where
  /-- A start is a timestamp. -/
  start_read : ∀ text, record.start? = some text → ∃ first, Timestamp.read? text = some first
  /-- An end is a timestamp. -/
  finish_read : ∀ text, record.finish? = some text → ∃ last, Timestamp.read? text = some last
  /-- The end is not before the start. -/
  ordered : ∀ start finish first last, record.start? = some start → record.finish? = some finish →
    Timestamp.read? start = some first → Timestamp.read? finish = some last → ¬last < first

namespace ValidityPeriod

theorem instantOf?_eq_ok_iff {text? : Option String} {instant? : Option Instant} :
    instantOf? text? = .ok instant? ↔ text?.map Timestamp.read? = instant?.map some := by
  cases text? with
  | none => cases instant? <;> simp [instantOf?]
  | some text =>
    simp only [instantOf?, Outcome.map_eq_ok_iff, Instant.ofTimestamp_eq_ok_iff, Option.map_some]
    cases instant? <;> simp [eq_comm]

theorem instantOf?_eq_error {text? : Option String} {error : TrustError}
    (failed : instantOf? text? = .error error) : error.IsInputFault := by
  cases text? with
  | none => cases failed
  | some text => exact Instant.ofTimestamp_eq_error (Outcome.map_eq_error_iff.mp failed)

theorem between_eq_ok_iff {start? finish? : Option Instant} {period : ValidityPeriod} :
    between start? finish? = .ok period ↔
      period = ⟨start?, finish?⟩ ∧
        ∀ first last, start? = some first → finish? = some last → ¬last < first := by
  cases start? with
  | none => simp [between, eq_comm]
  | some first =>
    cases finish? with
    | none => simp [between, eq_comm]
    | some last =>
      by_cases reversed : last < first <;> simp [between, reversed, eq_comm]

theorem between_eq_error {start? finish? : Option Instant} {error : TrustError}
    (failed : between start? finish? = .error error) : error.IsInputFault := by
  unfold between at failed
  split at failed
  · split at failed <;> cases failed
    exact TrustError.isInputFault_iff.mpr (.inr rfl)
  · cases failed

theorem ofTimestamps_eq_ok_iff {start? finish? : Option String} {period : ValidityPeriod} :
    ofTimestamps start? finish? = .ok period ↔
      start?.map Timestamp.read? = period.start?.map some ∧
        finish?.map Timestamp.read? = period.finish?.map some ∧
        ∀ first last, period.start? = some first → period.finish? = some last → ¬last < first := by
  simp only [ofTimestamps, Outcome.bind_eq_ok_iff, instantOf?_eq_ok_iff, between_eq_ok_iff]
  constructor
  · rintro ⟨first?, start_read, last?, finish_read, rfl, ordered⟩
    exact ⟨start_read, finish_read, ordered⟩
  · rintro ⟨start_read, finish_read, ordered⟩
    exact ⟨_, start_read, _, finish_read, rfl, ordered⟩

theorem ofTimestamps_eq_error {start? finish? : Option String} {error : TrustError}
    (failed : ofTimestamps start? finish? = .error error) : error.IsInputFault := by
  rcases Outcome.bind_eq_error_iff.mp failed with start_failed | ⟨first?, -, failed⟩
  · exact instantOf?_eq_error start_failed
  · rcases Outcome.bind_eq_error_iff.mp failed with finish_failed | ⟨last?, -, failed⟩
    · exact instantOf?_eq_error finish_failed
    · exact between_eq_error failed

private theorem exists_instant {text? : Option String} {instant? : Option Instant}
    (read : text?.map Timestamp.read? = instant?.map some) {text : String}
    (given : text? = some text) :
    ∃ instant, instant? = some instant ∧ Timestamp.read? text = some instant := by
  rw [given, Option.map_some, eq_comm, Option.map_eq_some_iff] at read
  obtain ⟨instant, found, same⟩ := read
  exact ⟨instant, found, same.symm⟩

private theorem map_read_bind {text? : Option String}
    (read : ∀ text, text? = some text → ∃ instant, Timestamp.read? text = some instant) :
    text?.map Timestamp.read? = (text?.bind Timestamp.read?).map some := by
  cases text? with
  | none => rfl
  | some text =>
    obtain ⟨instant, found⟩ := read text rfl
    simp [found]

/-- A record is accepted as a period when it is valid. -/
theorem exists_ofRecord_iff {record? : Option PeriodRecord} :
    (∃ period, ofRecord record? = .ok period) ↔
      ∀ record, record? = some record → record.IsValid := by
  cases record? with
  | none => simp [ofRecord]
  | some record =>
    simp only [ofRecord, ofTimestamps_eq_ok_iff, Option.some.injEq, forall_eq']
    constructor
    · rintro ⟨period, start_read, finish_read, ordered⟩
      refine ⟨fun text given => ?_, fun text given => ?_, ?_⟩
      · obtain ⟨first, -, read⟩ := exists_instant start_read given
        exact ⟨first, read⟩
      · obtain ⟨last, -, read⟩ := exists_instant finish_read given
        exact ⟨last, read⟩
      · intro start finish first last start_given finish_given first_read last_read
        obtain ⟨_, first_eq, same⟩ := exists_instant start_read start_given
        cases first_read.symm.trans same
        obtain ⟨_, last_eq, same⟩ := exists_instant finish_read finish_given
        cases last_read.symm.trans same
        exact ordered first last first_eq last_eq
    · rintro ⟨start_read, finish_read, ordered⟩
      refine ⟨⟨record.start?.bind Timestamp.read?, record.finish?.bind Timestamp.read?⟩,
        map_read_bind start_read, map_read_bind finish_read, fun first last first_eq last_eq => ?_⟩
      obtain ⟨start, start_given, first_read⟩ := Option.bind_eq_some_iff.mp first_eq
      obtain ⟨finish, finish_given, last_read⟩ := Option.bind_eq_some_iff.mp last_eq
      exact ordered start finish first last start_given finish_given first_read last_read

theorem ofRecord_eq_error {record? : Option PeriodRecord} {error : TrustError}
    (failed : ofRecord record? = .error error) : error.IsInputFault := by
  cases record? with
  | none => cases failed
  | some record => exact ofTimestamps_eq_error failed

end ValidityPeriod

/-- A log whose key is there and whose period can be read. -/
structure LogRecord.IsValid (record : LogRecord) : Prop where
  /-- There is a key. -/
  key : ∃ publicKey, record.key.publicKey? = some publicKey ∧ publicKey ≠ []
  /-- The period can be read. -/
  period : ∀ period, record.key.period? = some period → period.IsValid

/-- The identifier that the key of a record gives. -/
def LogRecord.id? (record : LogRecord) : Option String :=
  record.key.publicKey?.map fun publicKey => Hex.encode (sha256 publicKey)

namespace TransparencyLog

theorem ofRecord_eq_ok_iff {record : LogRecord} {log : TransparencyLog} :
    ofRecord record = .ok log ↔
      ∃ publicKey validity, record.key.publicKey? = some publicKey ∧ publicKey ≠ [] ∧
        ValidityPeriod.ofRecord record.key.period? = .ok validity ∧
        ofParts record publicKey validity = log := by
  unfold ofRecord
  split
  · rename_i keyless
    simp only [Option.filter_eq_none_iff] at keyless
    constructor
    · exact fun failed => nomatch failed
    · rintro ⟨publicKey, validity, found, nonempty, -⟩
      simpa [nonempty] using keyless publicKey found
  · rename_i publicKey kept
    obtain ⟨found, nonempty⟩ := Option.filter_eq_some_iff.mp kept
    rw [Outcome.map_eq_ok_iff]
    constructor
    · rintro ⟨validity, period_ok, rfl⟩
      exact ⟨publicKey, validity, found, by simpa using nonempty, period_ok, rfl⟩
    · rintro ⟨other, validity, other_found, -, period_ok, rfl⟩
      rw [found] at other_found
      cases other_found
      exact ⟨validity, period_ok, rfl⟩

/-- A record is accepted as a log when it is valid. -/
theorem exists_ofRecord_iff {record : LogRecord} :
    (∃ log, ofRecord record = .ok log) ↔ record.IsValid := by
  simp only [ofRecord_eq_ok_iff]
  constructor
  · rintro ⟨_, publicKey, validity, found, nonempty, period_ok, -⟩
    exact ⟨⟨publicKey, found, nonempty⟩,
      ValidityPeriod.exists_ofRecord_iff.mp ⟨validity, period_ok⟩⟩
  · rintro ⟨⟨publicKey, found, nonempty⟩, period⟩
    obtain ⟨validity, period_ok⟩ := ValidityPeriod.exists_ofRecord_iff.mpr period
    exact ⟨_, publicKey, validity, found, nonempty, period_ok, rfl⟩

theorem ofRecord_eq_error {record : LogRecord} {error : TrustError}
    (failed : ofRecord record = .error error) : error.IsInputFault := by
  unfold ofRecord at failed
  split at failed
  · cases failed
    exact TrustError.isInputFault_iff.mpr (.inr rfl)
  · exact ValidityPeriod.ofRecord_eq_error (Outcome.map_eq_error_iff.mp failed)

theorem id?_eq_of_ofRecord {record : LogRecord} {log : TransparencyLog}
    (accepted : ofRecord record = .ok log) : record.id? = some log.id := by
  obtain ⟨publicKey, validity, found, -, -, rfl⟩ := ofRecord_eq_ok_iff.mp accepted
  simp [LogRecord.id?, found, id, keyId, ofParts]

end TransparencyLog

/-- An authority whose certificates form a chain and whose period can be read. -/
structure AuthorityRecord.IsValid (record : AuthorityRecord) : Prop where
  /-- The certificates form a chain. -/
  chain : CertificateChain.IsEncodedChain record.chain
  /-- The period can be read. -/
  period : ∀ period, record.period? = some period → period.IsValid

/-- The identifier that the first certificate of a record gives. -/
def AuthorityRecord.id? (record : AuthorityRecord) : Option String :=
  record.chain.head?.map fun der => Hex.encode (sha256 der)

namespace Authority

theorem ofRecord_eq_ok_iff {record : AuthorityRecord} {authority : Authority} :
    ofRecord record = .ok authority ↔
      authority.chain.ders = record.chain ∧
        ValidityPeriod.ofRecord record.period? = .ok authority.validity ∧
        authority.uri? = (if record.uri.isEmpty then none else some record.uri) ∧
        authority.subject? = record.subject? := by
  simp only [ofRecord, Outcome.bind_eq_ok_iff, CertificateChain.ofDers_eq_ok_iff]
  constructor
  · rintro ⟨chain, chain_eq, validity, period_ok, done⟩
    cases done
    exact ⟨chain_eq, period_ok, rfl, rfl⟩
  · rintro ⟨chain_eq, period_ok, uri_eq, subject_eq⟩
    obtain ⟨chain, validity, uri?, subject?⟩ := authority
    cases uri_eq
    cases subject_eq
    exact ⟨chain, chain_eq, validity, period_ok, rfl⟩

/-- A record is accepted as an authority when it is valid. -/
theorem exists_ofRecord_iff {record : AuthorityRecord} :
    (∃ authority, ofRecord record = .ok authority) ↔ record.IsValid := by
  simp only [ofRecord_eq_ok_iff]
  constructor
  · rintro ⟨authority, chain_eq, period_ok, -⟩
    exact ⟨CertificateChain.exists_ofDers_iff.mp
        ⟨authority.chain, CertificateChain.ofDers_eq_ok_iff.mpr chain_eq⟩,
      ValidityPeriod.exists_ofRecord_iff.mp ⟨authority.validity, period_ok⟩⟩
  · rintro ⟨chain_valid, period⟩
    obtain ⟨chain, accepted⟩ := CertificateChain.exists_ofDers_iff.mpr chain_valid
    obtain ⟨validity, period_ok⟩ := ValidityPeriod.exists_ofRecord_iff.mpr period
    exact ⟨{ chain, validity, uri? := _, subject? := _ },
      CertificateChain.ofDers_eq_ok_iff.mp accepted, period_ok, rfl, rfl⟩

theorem ofRecord_eq_error {record : AuthorityRecord} {error : TrustError}
    (failed : ofRecord record = .error error) : error.IsInputFault := by
  rcases Outcome.bind_eq_error_iff.mp failed with chain_failed | ⟨chain, -, failed⟩
  · rcases CertificateChain.ofDers_eq_error chain_failed with ⟨cause, rfl⟩ | ⟨fault, rfl⟩
    · exact TrustError.isInputFault_iff.mpr (.inl rfl)
    · exact TrustError.isInputFault_iff.mpr (.inr rfl)
  · rcases Outcome.bind_eq_error_iff.mp failed with period_failed | ⟨_, -, done⟩
    · exact ValidityPeriod.ofRecord_eq_error period_failed
    · cases done

theorem id?_eq_of_ofRecord {record : AuthorityRecord} {authority : Authority}
    (accepted : ofRecord record = .ok authority) : record.id? = some authority.id := by
  obtain ⟨chain_eq, -⟩ := ofRecord_eq_ok_iff.mp accepted
  simp [AuthorityRecord.id?, ← chain_eq, CertificateChain.ders, CertificateChain.certificates, id,
    CertificateChain.id]

end Authority
end Countersign
