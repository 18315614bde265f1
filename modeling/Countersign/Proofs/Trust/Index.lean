import Countersign.Proofs.Text.Hex
import Countersign.Proofs.Trust.Acceptance
import Countersign.Trust.Setting
import Countersign.Trust.Source

/-!
# Lookups of trust anchors

Trust anchors that can be made from their parts answer every lookup with the one entry that has the
identifier.  If they cannot be made although the media type is known, the fault names the first
category with a repetition and the first identifier that is repeated there.
-/

namespace Countersign

/-- A text that spells bytes in lowercase hexadecimal. -/
structure Hex.Spells (text : String) (bytes : Bytes) : Prop where
  lowercase : ∀ character ∈ text.toList, character ∈ "0123456789abcdef".toList
  decode_eq : decode text = .ok bytes

theorem Hex.spells_encode (bytes : Bytes) : Spells (encode bytes) bytes := by
  refine ⟨fun character listed => ?_, decode_encode bytes⟩
  have all : ∀ value : Fin 16, digit value ∈ "0123456789abcdef".toList := by decide
  rw [encode, String.toList_ofList, List.mem_flatMap] at listed
  obtain ⟨byte, -, in_pair⟩ := listed
  have below := byte.toNat_lt
  rw [pair] at in_pair
  rcases List.mem_cons.mp in_pair with rfl | in_rest
  · exact all ⟨byte.toNat / 16, by omega⟩
  · cases List.mem_singleton.mp in_rest
    exact all ⟨byte.toNat % 16, by omega⟩

/-- What is set of a log leaves its key alone. -/
theorem TransparencyLog.publicKey_foldl_set (log : TransparencyLog) (settings : List LogSetting) :
    (settings.foldl set log).publicKey = log.publicKey := by
  induction settings generalizing log with
  | nil => rfl
  | cons first rest ih =>
    rw [List.foldl_cons, ih]
    cases first <;> rfl

/-- What is set of an authority leaves its chain alone. -/
theorem Authority.chain_foldl_set (authority : Authority) (settings : List AuthoritySetting) :
    (settings.foldl set authority).chain = authority.chain := by
  induction settings generalizing authority with
  | nil => rfl
  | cons first rest ih =>
    rw [List.foldl_cons, ih]
    cases first <;> rfl

/-- A lookup that uses a table: it finds an entry if that is listed with the identifier, no two
listed entries have the same one, and stored positions lie within the list. -/
structure EntryTable.Answers {α : Type} {id : α → String} (table : EntryTable id)
    (find? : String → Option α) (entries : List α) : Prop where
  find?_eq_some_iff (key : String) (entry : α) :
    find? key = some entry ↔ entry ∈ entries ∧ id entry = key
  distinct : (entries.map id).Nodup
  within (key : String) (position : Nat) :
    table.index.position? key = some position → position < entries.length

theorem EntryTable.answers {α : Type} {id : α → String} (table : EntryTable id) :
    table.Answers table.find? table.entries where
  find?_eq_some_iff _ _ := EntryTable.find?_eq_some_iff
  distinct := table.ids_nodup
  within _ _ := table.position_lt

theorem LogMap.get?_ofLogs (logs : List TransparencyLog) (id : String) :
    (ofLogs logs).get? id = logs.find? fun log => log.id = id := by
  induction logs with
  | nil => rfl
  | cons first rest ih =>
    rw [get?, ofLogs, List.map_cons, List.lookup_cons, List.find?_cons]
    by_cases same : first.id = id
    · simp [same]
    · have differs : (id == first.id) = false := beq_eq_false_iff_ne.mpr fun eq => same eq.symm
      simp only [differs, same, decide_false]
      exact ih

/-- A map of logs that has one log for each identifier and answers like a lookup. -/
structure LogMap.Agrees (map : LogMap) (find? : String → Option TransparencyLog) : Prop where
  distinct : (map.map Prod.fst).Nodup
  get?_eq (id : String) : map.get? id = find? id

theorem LogMap.agrees_ofLogs (table : EntryTable TransparencyLog.id) :
    (ofLogs table.entries).Agrees table.find? where
  distinct := by
    rw [ofLogs, List.map_map]
    exact table.ids_nodup
  get?_eq id := by rw [get?_ofLogs, EntryTable.find?_eq_list_find?]

theorem RootVersion.ofMediaType_eq_error_iff {text : String} {error : TrustError} :
    ofMediaType text = .error error ↔
      (∀ version : RootVersion, text ≠ version.mediaType) ∧ error = .mediaType text := by
  cases outcome : ofMediaType text with
  | ok version => simp [ofMediaType_eq_ok_iff.mp outcome]
  | error other =>
    have unknown (version : RootVersion) : text ≠ version.mediaType := fun known => by
      rw [ofMediaType_eq_ok_iff.mpr known] at outcome
      cases outcome
    have other_eq : other = .mediaType text := by
      rw [ofMediaType, if_neg (unknown v0_1), if_neg (unknown v0_2)] at outcome
      cases outcome
      rfl
    simp [unknown, other_eq, eq_comm]

namespace TrustAnchors

/-- Trust anchors that answer for the listed authorities and logs. -/
structure Indexes (anchors : TrustAnchors) (certificateAuthorities : List CertificateAuthority)
    (ctLogs : List TransparencyLog) (timestampingAuthorities : List TimestampingAuthority)
    (logs : List TransparencyLog) : Prop where
  certificateAuthorities : anchors.certificateAuthorityTable.Answers anchors.certificateAuthority?
    certificateAuthorities
  ctLogs : anchors.ctLogTable.Answers anchors.ctLog? ctLogs
  timestampingAuthorities : anchors.timestampingAuthorityTable.Answers
    anchors.timestampingAuthority? timestampingAuthorities
  logs : anchors.logTable.Answers anchors.log? logs
  logMap : (TrustSource.ofAnchors anchors).logs.Agrees anchors.log?
  ctLogMap : (TrustSource.ofAnchors anchors).ctLogs.Agrees anchors.ctLog?

theorem indexes (anchors : TrustAnchors) :
    anchors.Indexes anchors.certificateAuthorities anchors.ctLogs anchors.timestampingAuthorities
      anchors.logs where
  certificateAuthorities := anchors.certificateAuthorityTable.answers
  ctLogs := anchors.ctLogTable.answers
  timestampingAuthorities := anchors.timestampingAuthorityTable.answers
  logs := anchors.logTable.answers
  logMap := LogMap.agrees_ofLogs anchors.logTable
  ctLogMap := LogMap.agrees_ofLogs anchors.ctLogTable

/-- The identifiers of each category, in the order in which they are judged. -/
def idLists (certificateAuthorities : List CertificateAuthority) (ctLogs : List TransparencyLog)
    (timestampingAuthorities : List TimestampingAuthority) (logs : List TransparencyLog) :
    List (EntryCategory × List String) :=
  [(.certificateAuthority, certificateAuthorities.map (·.id)),
    (.ctLog, ctLogs.map TransparencyLog.id),
    (.timestampingAuthority, timestampingAuthorities.map (·.id)),
    (.transparencyLog, logs.map TransparencyLog.id)]

/-- The first repetition in the first category that has one. -/
def IsFirstDuplicate (idLists : List (EntryCategory × List String)) (category : EntryCategory)
    (id : String) : Prop :=
  ∃ front ids back, idLists = front ++ (category, ids) :: back ∧
    (∀ earlier ∈ front, earlier.2.Nodup) ∧ EntryIndex.IsFirstRepeat ids id

theorem tableOf_eq_duplicate {α : Type} {category : EntryCategory} {id : α → String}
    {entries : List α} {error : TrustError}
    (failed : tableOf category id entries = .error error) :
    ∃ repeated, error = .duplicate category repeated ∧
      EntryIndex.IsFirstRepeat (entries.map id) repeated := by
  obtain ⟨repeated, unbuilt, rfl⟩ := Outcome.mapError_eq_error_iff.mp failed
  exact ⟨repeated, rfl, EntryTable.isFirstRepeat_of_ofEntries unbuilt⟩

theorem nodup_of_tableOf {α : Type} {category : EntryCategory} {id : α → String}
    {entries : List α} {table : EntryTable id} (built : tableOf category id entries = .ok table) :
    (entries.map id).Nodup :=
  tableOf_eq_ok_iff.mp built ▸ table.ids_nodup

section Parts

variable {mediaType : String} {certificateAuthorities : List CertificateAuthority}
  {ctLogs : List TransparencyLog} {timestampingAuthorities : List TimestampingAuthority}
  {logs : List TransparencyLog}

/-- Once the media type is accepted, a failure is the first repetition. -/
theorem isFirstDuplicate_of_ofParts {error : TrustError} {version : RootVersion}
    (accepted : RootVersion.ofMediaType mediaType = .ok version)
    (failed : ofParts mediaType certificateAuthorities ctLogs timestampingAuthorities logs =
      .error error) :
    ∃ category id, error = .duplicate category id ∧
      IsFirstDuplicate (idLists certificateAuthorities ctLogs timestampingAuthorities logs)
        category id := by
  rcases Outcome.bind_eq_error_iff.mp failed with refused | ⟨_, -, failed⟩
  · rw [accepted] at refused
    cases refused
  rcases Outcome.bind_eq_error_iff.mp failed with here | ⟨_, first, failed⟩
  · obtain ⟨id, rfl, repeated⟩ := tableOf_eq_duplicate here
    exact ⟨_, id, rfl, [], _, _, rfl, by simp, repeated⟩
  rcases Outcome.bind_eq_error_iff.mp failed with here | ⟨_, second, failed⟩
  · obtain ⟨id, rfl, repeated⟩ := tableOf_eq_duplicate here
    refine ⟨_, id, rfl, [_], _, _, rfl, ?_, repeated⟩
    simpa using nodup_of_tableOf first
  rcases Outcome.bind_eq_error_iff.mp failed with here | ⟨_, third, failed⟩
  · obtain ⟨id, rfl, repeated⟩ := tableOf_eq_duplicate here
    refine ⟨_, id, rfl, [_, _], _, _, rfl, ?_, repeated⟩
    simpa using ⟨nodup_of_tableOf first, nodup_of_tableOf second⟩
  rcases Outcome.bind_eq_error_iff.mp failed with here | ⟨_, _, failed⟩
  · obtain ⟨id, rfl, repeated⟩ := tableOf_eq_duplicate here
    refine ⟨_, id, rfl, [_, _, _], _, _, rfl, ?_, repeated⟩
    simpa using ⟨nodup_of_tableOf first, nodup_of_tableOf second, nodup_of_tableOf third⟩
  · cases failed

theorem unknown_or_isFirstDuplicate {error : TrustError}
    (failed : ofParts mediaType certificateAuthorities ctLogs timestampingAuthorities logs =
      .error error) :
    (∀ version : RootVersion, mediaType ≠ version.mediaType) ∧ error = .mediaType mediaType ∨
      (∃ version : RootVersion, mediaType = version.mediaType) ∧
        ∃ category id, error = .duplicate category id ∧
          IsFirstDuplicate (idLists certificateAuthorities ctLogs timestampingAuthorities logs)
            category id := by
  cases judged : RootVersion.ofMediaType mediaType with
  | ok version =>
    have known : mediaType = version.mediaType := RootVersion.ofMediaType_eq_ok_iff.mp judged
    exact .inr ⟨⟨version, known⟩, isFirstDuplicate_of_ofParts judged failed⟩
  | error refusal =>
    have refused : ofParts mediaType certificateAuthorities ctLogs timestampingAuthorities logs =
        .error refusal :=
      Outcome.bind_eq_error_iff.mpr (.inl judged)
    cases failed.symm.trans refused
    exact .inl (RootVersion.ofMediaType_eq_error_iff.mp judged)

theorem nodup_of_ofParts {anchors : TrustAnchors}
    (made : ofParts mediaType certificateAuthorities ctLogs timestampingAuthorities logs =
      .ok anchors) :
    ∀ category ∈ idLists certificateAuthorities ctLogs timestampingAuthorities logs,
      category.2.Nodup := by
  obtain ⟨-, rfl, rfl, rfl, rfl⟩ := ofParts_eq_ok_iff.mp made
  have distinct := anchors.indexes
  simp only [idLists, List.forall_mem_cons, List.not_mem_nil, false_imp_iff, implies_true, and_true]
  exact ⟨distinct.certificateAuthorities.distinct, distinct.ctLogs.distinct,
    distinct.timestampingAuthorities.distinct, distinct.logs.distinct⟩

theorem IsFirstDuplicate.exists_not_nodup {idLists : List (EntryCategory × List String)}
    {category : EntryCategory} {id : String} (first : IsFirstDuplicate idLists category id) :
    ∃ entry ∈ idLists, ¬entry.2.Nodup := by
  obtain ⟨front, ids, back, rfl, -, earlier, later, rfl, -, in_earlier⟩ := first
  refine ⟨_, List.mem_append_right front List.mem_cons_self, fun distinct => ?_⟩
  exact (List.nodup_append.mp distinct).2.2 id in_earlier id List.mem_cons_self rfl

theorem exists_ofParts_eq_error_iff :
    (∃ error, ofParts mediaType certificateAuthorities ctLogs timestampingAuthorities logs =
        .error error) ↔
      (∀ version : RootVersion, mediaType ≠ version.mediaType) ∨
        ∃ category ∈ idLists certificateAuthorities ctLogs timestampingAuthorities logs,
          ¬category.2.Nodup := by
  constructor
  · rintro ⟨error, failed⟩
    rcases unknown_or_isFirstDuplicate failed with ⟨unknown, -⟩ | ⟨-, _, _, -, first⟩
    · exact .inl unknown
    · exact .inr first.exists_not_nodup
  · intro faulty
    cases outcome :
      ofParts mediaType certificateAuthorities ctLogs timestampingAuthorities logs with
    | error error => exact ⟨error, rfl⟩
    | ok anchors =>
      rcases faulty with unknown | ⟨category, listed, repeats⟩
      · exact absurd (ofParts_eq_ok_iff.mp outcome).1 (unknown anchors.version)
      · exact absurd (nodup_of_ofParts outcome category listed) repeats

theorem exists_ofParts_eq_ok_iff :
    (∃ anchors, ofParts mediaType certificateAuthorities ctLogs timestampingAuthorities logs =
        .ok anchors) ↔
      (∃ version : RootVersion, mediaType = version.mediaType) ∧
        ∀ category ∈ idLists certificateAuthorities ctLogs timestampingAuthorities logs,
          category.2.Nodup := by
  constructor
  · rintro ⟨anchors, made⟩
    exact ⟨⟨anchors.version, (ofParts_eq_ok_iff.mp made).1⟩, nodup_of_ofParts made⟩
  · rintro ⟨⟨version, known⟩, distinct⟩
    cases outcome :
      ofParts mediaType certificateAuthorities ctLogs timestampingAuthorities logs with
    | ok anchors => exact ⟨anchors, rfl⟩
    | error error =>
      rcases exists_ofParts_eq_error_iff.mp ⟨error, outcome⟩ with
        unknown | ⟨category, listed, repeats⟩
      · exact absurd known (unknown version)
      · exact absurd (distinct category listed) repeats

end Parts

/-- Trust anchors are made from their parts unless the media type is unknown or a category repeats
an identifier, and then every lookup finds the entry that is listed with the identifier.  Whatever
else has been set, an identifier is the digest of a key or of a first certificate. -/
theorem ofParts_indexes (mediaType : String) (certificateAuthorities : List CertificateAuthority)
    (ctLogs : List TransparencyLog) (timestampingAuthorities : List TimestampingAuthority)
    (logs : List TransparencyLog) :
    (match ofParts mediaType certificateAuthorities ctLogs timestampingAuthorities logs with
      | .ok anchors => anchors.Indexes certificateAuthorities ctLogs timestampingAuthorities logs
      | .error error =>
        (∀ version : RootVersion, mediaType ≠ version.mediaType) ∧ error = .mediaType mediaType ∨
        (∃ version : RootVersion, mediaType = version.mediaType) ∧
          ∃ category id, error = .duplicate category id ∧
            IsFirstDuplicate (idLists certificateAuthorities ctLogs timestampingAuthorities logs)
              category id) ∧
    ((∃ error, ofParts mediaType certificateAuthorities ctLogs timestampingAuthorities logs =
        .error error) ↔
      (∀ version : RootVersion, mediaType ≠ version.mediaType) ∨
        ∃ category ∈ idLists certificateAuthorities ctLogs timestampingAuthorities logs,
          ¬category.2.Nodup) ∧
    (∀ (log : TransparencyLog) (settings : List LogSetting),
      Hex.Spells (settings.foldl TransparencyLog.set log).id (sha256 log.publicKey)) ∧
    ∀ (authority : Authority) (settings : List AuthoritySetting),
      Hex.Spells (settings.foldl Authority.set authority).id
        (sha256 authority.chain.first.der) := by
  refine ⟨?_, exists_ofParts_eq_error_iff, fun log settings => ?_, fun authority settings => ?_⟩
  · split
    case h_1 anchors made =>
      obtain ⟨-, rfl, rfl, rfl, rfl⟩ := ofParts_eq_ok_iff.mp made
      exact anchors.indexes
    case h_2 error failed => exact unknown_or_isFirstDuplicate failed
  · rw [TransparencyLog.id, TransparencyLog.keyId, TransparencyLog.publicKey_foldl_set]
    exact Hex.spells_encode _
  · rw [Authority.id, Authority.chain_foldl_set]
    exact Hex.spells_encode _

end TrustAnchors

end Countersign
