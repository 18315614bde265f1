import Countersign.Proofs.Trust.Acceptance
import Countersign.Proofs.Trust.Persistence

/-!
# Trust roots are read back

A trust root that was read from a text is written as a text that is read as the same anchors again,
and that is written as itself from then on.
-/

namespace Countersign

open Json Json.Value Json.Decoder

namespace TrustAnchors

/-- Trust anchors all of whose periods have ends with years that four digits can spell. -/
structure HasFourDigitYears (anchors : TrustAnchors) : Prop where
  certificateAuthorities : ∀ authority ∈ anchors.certificateAuthorities,
    authority.validity.HasFourDigitYears
  ctLogs : ∀ log ∈ anchors.ctLogs, log.validity.HasFourDigitYears
  timestampingAuthorities : ∀ authority ∈ anchors.timestampingAuthorities,
    authority.validity.HasFourDigitYears
  logs : ∀ log ∈ anchors.logs, log.validity.HasFourDigitYears

/-- Trust anchors are described by a record, and their periods can be written. -/
def Describes (record : RootRecord) (anchors : TrustAnchors) : Prop :=
  ofRecord record = .ok anchors ∧ anchors.HasFourDigitYears

private theorem forall₂_and {α β : Type} {describes : α → β → Prop} {holds : β → Prop}
    {records : List α} {entries : List β} (described : List.Forall₂ describes records entries)
    (all : ∀ entry ∈ entries, holds entry) :
    List.Forall₂ (fun record entry => describes record entry ∧ holds entry) records entries := by
  induction described with
  | nil => exact .nil
  | cons first _ ih =>
    exact .cons ⟨first, all _ List.mem_cons_self⟩
      (ih fun entry listed => all entry (List.mem_cons_of_mem _ listed))

theorem persists_logs {base? : Option Value} {records : List LogRecord}
    {logs : List TransparencyLog}
    (source : IsSource (.ok []) (list LogRecord.decoder) base? records)
    (described : DescribesLogs records logs)
    (years : ∀ log ∈ logs, log.validity.HasFourDigitYears) :
    ∃ again, (list LogRecord.decoder).optionally (.ok [])
        (patchMember? base? (some (RootRecord.logsWritten (logs.map TransparencyLog.toRecord)))) =
          .ok again ∧
      DescribesLogs again logs := by
  obtain ⟨again, read, described_again⟩ :=
    TransparencyLog.persists.list source (forall₂_and described years)
  refine ⟨again, ?_, described_again.imp fun _ _ described => described.1⟩
  rw [RootRecord.logsWritten, List.map_map]
  exact read

theorem persists_authorities {α : Type} {authority : α → Authority} {base? : Option Value}
    {records : List AuthorityRecord} {entries : List α}
    (source : IsSource (.ok []) (list AuthorityRecord.decoder) base? records)
    (described : DescribesAuthorities authority records entries)
    (years : ∀ entry ∈ entries, (authority entry).validity.HasFourDigitYears) :
    ∃ again, (list AuthorityRecord.decoder).optionally (.ok [])
        (patchMember? base? (some (RootRecord.authoritiesWritten
          (entries.map fun entry => (authority entry).toRecord)))) = .ok again ∧
      DescribesAuthorities authority again entries := by
  have authorities_described :
      List.Forall₂ Authority.Describes records (entries.map authority) :=
    List.forall₂_map_right_iff.mpr (forall₂_and described years)
  obtain ⟨again, read, described_again⟩ := Authority.persists.list source authorities_described
  rw [List.forall₂_map_right_iff] at described_again
  refine ⟨again, ?_, described_again.imp fun _ _ described => described.1⟩
  rw [RootRecord.authoritiesWritten, List.map_map]
  dsimp only at read
  rw [List.map_map] at read
  exact read

/-- Trust anchors persist, because their entries do. -/
theorem persists :
    Persists (.error .malformed) RootRecord.decoder Describes
      fun anchors => some (.object anchors.toRecord.written) := by
  rintro base? record anchors source ⟨accepted, years⟩
  obtain ⟨members, distinct, ordered, read, part_of⟩ := source.exists_members (by decide)
  have fields := (RootRecord.fields_eq_ok_iff distinct).mp read
  obtain ⟨version_eq, authorities, ctLogs, stampers, logs⟩ := ofRecord_eq_ok_iff.mp accepted
  obtain ⟨_, mediaType_read, rfl⟩ := persists_string (.error .malformed)
    (IsSource.ofMember part_of (ordered _) fields.mediaType) version_eq
  obtain ⟨logs_again, logs_read, logs_described⟩ :=
    persists_logs (IsSource.ofMember part_of (ordered _) fields.logs) logs years.logs
  obtain ⟨authorities_again, authorities_read, authorities_described⟩ := persists_authorities
    (IsSource.ofMember part_of (ordered _) fields.certificateAuthorities) authorities
    years.certificateAuthorities
  obtain ⟨ctLogs_again, ctLogs_read, ctLogs_described⟩ :=
    persists_logs (IsSource.ofMember part_of (ordered _) fields.ctLogs) ctLogs years.ctLogs
  obtain ⟨stampers_again, stampers_read, stampers_described⟩ := persists_authorities
    (IsSource.ofMember part_of (ordered _) fields.timestampingAuthorities) stampers
    years.timestampingAuthorities
  have written_sorted := anchors.toRecord.isSorted_written
  have patched_sorted :=
    isSorted_patchMembers source.areOrdered.isSorted_ownMembers anchors.toRecord.written
  refine ⟨⟨anchors.version.mediaType, logs_again, authorities_again, ctLogs_again, stampers_again⟩,
    (record_patch_eq_ok_iff written_sorted).mpr ((RootRecord.fields_eq_ok_iff
      patched_sorted.nodup).mpr ⟨?mediaType, ?logs, ?authorities, ?ctLogs, ?stampers⟩),
    ofRecord_eq_ok_iff.mpr ⟨rfl, authorities_described, ctLogs_described, stampers_described,
      logs_described⟩, years⟩
  case mediaType =>
    rw [lookup?_patchMembers _ written_sorted.nodup, RootRecord.lookup?_written]
    exact mediaType_read
  case logs =>
    rw [lookup?_patchMembers _ written_sorted.nodup, RootRecord.lookup?_written]
    exact logs_read
  case authorities =>
    rw [lookup?_patchMembers _ written_sorted.nodup, RootRecord.lookup?_written]
    exact authorities_read
  case ctLogs =>
    rw [lookup?_patchMembers _ written_sorted.nodup, RootRecord.lookup?_written]
    exact ctLogs_read
  case stampers =>
    rw [lookup?_patchMembers _ written_sorted.nodup, RootRecord.lookup?_written]
    exact stampers_read

end TrustAnchors

/-- A number whose text is read as that number. -/
def Json.Number.ReadsBack (number : Number) : Prop :=
  TrustRoot.valueOfText (Text.read (Value.number number).toDocument.compact) = .ok (.number number)

namespace TrustRoot

theorem valueOfText_eq_ok_iff {text : Text} {value : Value} :
    valueOfText text = .ok value ↔
      text.document.isKept Document.maxDepth = true ∧ ofDocument text.document = value ∧
        text.complete = true := by
  rw [valueOfText, ofDocument?]
  by_cases kept : text.document.isKept Document.maxDepth = true
  · by_cases complete : text.complete = true <;> simp [kept, complete]
  · simp [kept]

theorem ofJson_eq_ok_iff {text : String} {root : TrustRoot} :
    ofJson text = .ok root ↔
      ∃ source record, valueOfText (Text.read text) = .ok source ∧
        RootRecord.decoder source.toDocument = .ok record ∧
        TrustAnchors.ofRecord record = .ok root.toTrustAnchors ∧ root.source? = some source := by
  change (valueOfText (Text.read text) >>= ofValue) = _ ↔ _
  simp only [Outcome.bind_eq_ok_iff, ofValue, Outcome.mapError_eq_ok_iff]
  constructor
  · rintro ⟨source, source_ok, record, record_ok, anchors, anchors_ok, same⟩
    cases same
    exact ⟨source, record, source_ok, record_ok, anchors_ok, rfl⟩
  · rintro ⟨source, record, source_ok, record_ok, anchors_ok, source_eq⟩
    obtain ⟨anchors, source?⟩ := root
    cases source_eq
    exact ⟨source, source_ok, record, record_ok, anchors, anchors_ok, rfl⟩

/-- The text of a number that reads back spells the number. -/
theorem isRestored_of_readsBack {number : Number} (reads_back : number.ReadsBack) :
    number.IsRestored := by
  obtain ⟨kept, denotes, -⟩ := valueOfText_eq_ok_iff.mp reads_back
  cases read : (Text.read (Value.number number).toDocument.compact).document with
  | number found =>
    rw [read, Document.isKept] at kept
    obtain ⟨denoted, denoted_eq⟩ := Option.isSome_iff_exists.mp kept
    rw [read, ofDocument, denoted_eq] at denotes
    rw [toDocument] at read
    obtain ⟨spelled, rfl⟩ := Text.isSpelled_of_read read
    cases denotes
    exact ⟨spelled, denoted_eq⟩
  | _ =>
    rw [read, ofDocument] at denotes
    cases denotes

/-- The numbers that a text gives are restored, if the binary ones read back. -/
theorem isWellFormed_of_valueOfText {text : Text} {source : Value}
    (source_ok : valueOfText text = .ok source)
    (reals : ∀ value, source.HasNumber (.real value) → (Number.real value).ReadsBack) :
    source.IsWellFormed Number.IsRestored Document.maxDepth := by
  obtain ⟨kept, rfl, -⟩ := valueOfText_eq_ok_iff.mp source_ok
  refine (isWellFormed_ofDocument kept).imp fun number inside denoted => ?_
  refine denoted.isRestored fun value same => ?_
  subst same
  exact isRestored_of_readsBack (reals value inside)

/-- The compact and the indented text of a well-formed value are read as that value. -/
theorem valueOfText_written {value : Value}
    (formed : value.IsWellFormed Number.IsRestored Document.maxDepth) :
    valueOfText (Text.read value.toDocument.compact) = .ok value ∧
      valueOfText (Text.read value.toDocument.indented) = .ok value := by
  have spelled := isSpelled_toDocument formed
  rw [Text.read_compact spelled, Text.read_indented spelled]
  have read : valueOfText ⟨value.toDocument, true⟩ = .ok value := valueOfText_eq_ok_iff.mpr
    ⟨isKept_toDocument formed, ofDocument_toDocument formed, rfl⟩
  exact ⟨read, read⟩

theorem anchorValue_eq (root : TrustRoot) :
    root.anchorValue = .object root.toTrustAnchors.toRecord.written :=
  RootRecord.ofDocument_toDocument _

theorem isWellFormed_anchorValue (root : TrustRoot) (accepts : Number → Prop) :
    root.anchorValue.IsWellFormed accepts Document.maxDepth := by
  rw [anchorValue_eq]
  exact RootRecord.isWellFormed_written 121 _

/-- A trust root that was read is written as texts that are read as the same anchors, and those are
written as the same text again. -/
theorem roundTrip {text : String} {root : TrustRoot} (accepted : ofJson text = .ok root)
    (years : root.HasFourDigitYears)
    (reals : ∀ source value, root.source? = some source → source.HasNumber (.real value) →
      (Number.real value).ReadsBack) :
    ∃ second, ofJson root.toJson = .ok second ∧ ofJson root.toIndentedJson = .ok second ∧
      second.agrees root = true ∧ second.toJson = root.toJson := by
  obtain ⟨source, record, source_ok, record_ok, anchors_ok, source_eq⟩ :=
    ofJson_eq_ok_iff.mp accepted
  have source_formed :=
    isWellFormed_of_valueOfText source_ok fun value => reals source value source_eq
  have anchors_formed := root.isWellFormed_anchorValue Number.IsRestored
  have value_eq : root.toValue = source.patch root.anchorValue := by
    rw [toValue, source_eq]
  have again : ∃ record, RootRecord.decoder root.toValue.toDocument = .ok record ∧
      TrustAnchors.ofRecord record = .ok root.toTrustAnchors := by
    have source_reads : IsSource (.error .malformed) RootRecord.decoder (some source) record := by
      refine ⟨some source, fun value same => ?_, record_ok, .inr rfl⟩
      cases same
      exact source_formed.isOrdered
    obtain ⟨record, read, described⟩ := TrustAnchors.persists source_reads ⟨anchors_ok, years⟩
    dsimp only at read
    rw [← anchorValue_eq, patchMember?, ← value_eq] at read
    exact ⟨record, read, described.1⟩
  obtain ⟨record_again, record_again_ok, anchors_again_ok⟩ := again
  have value_formed : root.toValue.IsWellFormed Number.IsRestored Document.maxDepth := by
    rw [value_eq]
    exact source_formed.patch anchors_formed
  obtain ⟨compact_read, indented_read⟩ := valueOfText_written value_formed
  refine ⟨⟨root.toTrustAnchors, some root.toValue⟩, ?compact, ?indented, ?agrees, ?same⟩
  case compact =>
    exact ofJson_eq_ok_iff.mpr
      ⟨root.toValue, record_again, compact_read, record_again_ok, anchors_again_ok, rfl⟩
  case indented =>
    exact ofJson_eq_ok_iff.mpr
      ⟨root.toValue, record_again, indented_read, record_again_ok, anchors_again_ok, rfl⟩
  case agrees => exact decide_eq_true rfl
  case same =>
    -- The anchors of the second root are laid over a value that already carries them.
    have settled : root.toValue.patch root.anchorValue = root.toValue := by
      rw [value_eq]
      exact source_formed.patch_patch anchors_formed
    exact congrArg (fun value : Value => value.toDocument.compact) settled

section Sample

/-- One and a half. -/
private def half : Number :=
  .real ⟨false, 0x18000000000000, -52⟩

private theorem half_isRestored : half.IsRestored := by
  have spelling : Numeral.ofNumber half = ⟨false, [1], some [5], none⟩ := by decide +kernel
  refine ⟨?_, by decide +kernel⟩
  rw [spelling]
  exact ⟨.positive (by decide) [], nofun, rfl⟩

private def samplePeriod : Value :=
  .object [("note", .number half), ("start", .string "2021-01-12T12:53:27+01:00")]

private def sampleLog : Value :=
  .object [("logId", .null), ("publicKey", .array [.string "AQ==", .string "RSA", samplePeriod])]

private def sample : Value :=
  .object [("mediaType", .string RootVersion.v0_2.mediaType), ("tlogs", .array [sampleLog])]

/-- A trust root with one log. -/
def sampleRecord : RootRecord where
  mediaType := RootVersion.v0_2.mediaType
  logs := [⟨"", none, ⟨some [1], "RSA", some ⟨some "2021-01-12T12:53:27+01:00", none⟩⟩, none⟩]
  certificateAuthorities := []
  ctLogs := []
  timestampingAuthorities := []

private theorem sample_formed : sample.IsWellFormed Number.IsRestored Document.maxDepth := by
  have period : samplePeriod.IsWellFormed Number.IsRestored 123 := by
    refine .object (by unfold IsSorted; decide) ?_
    simp only [List.forall_mem_cons]
    exact ⟨.number half_isRestored, .string _, nofun⟩
  have key : (Value.array [.string "AQ==", .string "RSA", samplePeriod]).IsWellFormed
      Number.IsRestored 124 := by
    refine .array ?_
    simp only [List.forall_mem_cons]
    exact ⟨.string _, .string _, period, nofun⟩
  have log : sampleLog.IsWellFormed Number.IsRestored 125 := by
    refine .object (by unfold IsSorted; decide) ?_
    simp only [List.forall_mem_cons]
    exact ⟨.null, key, nofun⟩
  refine .object (by unfold IsSorted; decide) ?_
  simp only [List.forall_mem_cons]
  exact ⟨.string _, .array (List.forall_mem_singleton.mpr log), nofun⟩

/-- An instant of the year 2021. -/
def sampleStart : Instant :=
  ⟨1610452407, 0, by decide⟩

theorem sampleRecord_described :
    ∃ anchors, TrustAnchors.Describes sampleRecord anchors := by
  have validity : ValidityPeriod.ofRecord (some ⟨some "2021-01-12T12:53:27+01:00", none⟩) =
      .ok ⟨some sampleStart, none⟩ := by decide +kernel
  have years : ValidityPeriod.HasFourDigitYears ⟨some sampleStart, none⟩ := by
    refine ⟨fun first same => ?_, nofun⟩
    cases same
    exact ⟨by decide +kernel, by decide +kernel⟩
  have log_valid : ∀ record ∈ sampleRecord.ctLogs ++ sampleRecord.logs, record.IsValid :=
    List.forall_mem_singleton.mpr (TransparencyLog.exists_ofRecord_iff.mp
      ⟨_, TransparencyLog.ofRecord_eq_ok_iff.mpr ⟨[1], _, rfl, nofun, validity, rfl⟩⟩)
  obtain ⟨anchors, accepted⟩ := TrustAnchors.exists_ofRecord_of_isValid
    ⟨.inr rfl, List.forall_mem_nil _, log_valid, List.nodup_nil, List.nodup_nil, List.nodup_nil,
      List.nodup_singleton _⟩
  obtain ⟨-, authorities, ctLogs, stampers, logs⟩ := TrustAnchors.ofRecord_eq_ok_iff.mp accepted
  refine ⟨anchors, accepted, ?_, ?_, ?_, ?_⟩
  · rw [List.forall₂_nil_left_iff.mp authorities]
    exact List.forall_mem_nil _
  · rw [List.forall₂_nil_left_iff.mp ctLogs]
    exact List.forall_mem_nil _
  · rw [List.forall₂_nil_left_iff.mp stampers]
    exact List.forall_mem_nil _
  · obtain ⟨log, _, described, rest, logs_eq⟩ := List.forall₂_cons_left_iff.mp logs
    obtain ⟨_, _, _, _, validity_read, rfl⟩ := TransparencyLog.ofRecord_eq_ok_iff.mp described
    cases validity.symm.trans validity_read
    rw [logs_eq, List.forall₂_nil_left_iff.mp rest]
    exact List.forall_mem_singleton.mpr years

/-- A log whose key is an array, whose identifier is null and whose period starts at a time with an
offset and holds a number of no meaning: the hypotheses hold, and so does the conclusion. -/
theorem roundTrip_sample :
    ∃ root, ofJson sample.toDocument.compact = .ok root ∧ root.HasFourDigitYears ∧
      (∀ source value, root.source? = some source → source.HasNumber (.real value) →
        (Number.real value).ReadsBack) ∧
      ∃ second, ofJson root.toJson = .ok second ∧ ofJson root.toIndentedJson = .ok second ∧
        second.agrees root = true ∧ second.toJson = root.toJson := by
  have decoded : RootRecord.decoder sample.toDocument = .ok sampleRecord := by decide +kernel
  obtain ⟨anchors, accepted, years⟩ := sampleRecord_described
  have read : ofJson sample.toDocument.compact = .ok ⟨anchors, some sample⟩ :=
    ofJson_eq_ok_iff.mpr
      ⟨sample, sampleRecord, (valueOfText_written sample_formed).1, decoded, accepted, rfl⟩
  have reals : ∀ source value, some sample = some source → source.HasNumber (.real value) →
      (Number.real value).ReadsBack := by
    intro source value same inside
    cases same
    exact (valueOfText_written (.number (sample_formed.accepts_of_hasNumber inside))).1
  exact ⟨_, read, years, reals, roundTrip read years reals⟩

end Sample

end TrustRoot
end Countersign
