import Mathlib.Data.Set.Insert
import Countersign.Proofs.Trust.Index
import Countersign.Proofs.Trust.Resolution

/-!
# What an entry cannot do to others

The identifier that a log declares decides nothing, and the algorithms that it declares matter for
its own identifier alone.  Two records that differ in nothing else are accepted alike, and all other
identifiers are resolved alike.
-/

namespace Countersign

/-- Two records of a log that may declare different identifiers and, if the log has one of the
exempt identifiers, different algorithms. -/
structure LogRecord.AgreesOutside (exempt : Set String) (first second : LogRecord) : Prop where
  baseUrl : first.baseUrl = second.baseUrl
  publicKey : first.key.publicKey? = second.key.publicKey?
  period : first.key.period? = second.key.period?
  algorithms : (∀ id ∈ exempt, first.id? ≠ some id) →
    first.key.details = second.key.details ∧ first.hashName? = second.hashName?

/-- Two records of trust roots whose logs agree outside the exempt identifiers. -/
structure RootRecord.AgreesOutside (exempt : Set String) (first second : RootRecord) : Prop where
  mediaType : first.mediaType = second.mediaType
  certificateAuthorities : first.certificateAuthorities = second.certificateAuthorities
  ctLogs : List.Forall₂ (LogRecord.AgreesOutside exempt) first.ctLogs second.ctLogs
  timestampingAuthorities : first.timestampingAuthorities = second.timestampingAuthorities
  logs : List.Forall₂ (LogRecord.AgreesOutside exempt) first.logs second.logs

variable {exempt : Set String}

namespace LogRecord

/-- Any log may declare another identifier. -/
theorem agreesOutside_renamed (record : LogRecord) (declaredId? : Option Bytes) :
    record.AgreesOutside exempt { record with declaredId? } :=
  ⟨rfl, rfl, rfl, fun _ => ⟨rfl, rfl⟩⟩

/-- A log with an exempt identifier may declare other algorithms as well. -/
theorem agreesOutside_forged {record : LogRecord} {id : String} (listed : id ∈ exempt)
    (found : record.id? = some id) (details : String) (hashName? : Option String)
    (declaredId? : Option Bytes) :
    record.AgreesOutside exempt
      { record with hashName?, key := { record.key with details }, declaredId? } :=
  ⟨rfl, rfl, rfl, fun outside => absurd found (outside id listed)⟩

end LogRecord

namespace TransparencyLog

/-- Two logs with one key and one period that declare the same algorithm unless they are exempt. -/
structure AgreesOutside (exempt : Set String) (first second : TransparencyLog) : Prop where
  publicKey : first.publicKey = second.publicKey
  validity : first.validity = second.validity
  keyDetails : first.id ∉ exempt → first.keyDetails = second.keyDetails

variable {first second : TransparencyLog}

theorem AgreesOutside.id_eq (agree : first.AgreesOutside exempt second) :
    first.id = second.id := by
  rw [id, id, keyId, keyId, agree.publicKey]

theorem AgreesOutside.verifier_eq (agree : first.AgreesOutside exempt second)
    (outside : first.id ∉ exempt) : first.verifier = second.verifier := by
  rw [verifier, verifier, agree.keyDetails outside, agree.publicKey, agree.validity, agree.id_eq]

theorem ofRecord_alike {record other : LogRecord} (agree : record.AgreesOutside exempt other) :
    Outcome.Alike (AgreesOutside exempt) (ofRecord record) (ofRecord other) := by
  unfold ofRecord
  rw [← agree.publicKey, ← agree.period]
  split
  · exact .error _
  · rename_i publicKey kept
    have given : record.key.publicKey? = some publicKey := (Option.filter_eq_some_iff.mp kept).1
    cases ValidityPeriod.ofRecord record.key.period? with
    | error error => exact .error error
    | ok validity =>
      refine .ok ⟨rfl, rfl, fun outside => congrArg KeyDetails.ofName (agree.algorithms ?_).1⟩
      rintro id listed found
      rw [LogRecord.id?, given] at found
      cases found
      exact outside listed

end TransparencyLog

namespace TrustAnchors

/-- Trust anchors with the same authorities whose logs agree outside the exempt identifiers. -/
structure AgreesOutside (exempt : Set String) (first second : TrustAnchors) : Prop where
  certificateAuthorities : first.certificateAuthorities = second.certificateAuthorities
  ctLogs : List.Forall₂ (TransparencyLog.AgreesOutside exempt) first.ctLogs second.ctLogs
  timestampingAuthorities : first.timestampingAuthorities = second.timestampingAuthorities
  logs : List.Forall₂ (TransparencyLog.AgreesOutside exempt) first.logs second.logs

theorem map_id_eq {logs others : List TransparencyLog}
    (agree : List.Forall₂ (TransparencyLog.AgreesOutside exempt) logs others) :
    logs.map TransparencyLog.id = others.map TransparencyLog.id := by
  induction agree with
  | nil => rfl
  | cons first _ ih => rw [List.map_cons, List.map_cons, first.id_eq, ih]

/-- Whether trust anchors can be made from their parts does not depend on what logs declare. -/
theorem ofParts_alike (mediaType : String) (certificateAuthorities : List CertificateAuthority)
    {ctLogs ctLogs' : List TransparencyLog}
    (ctLogs_agree : List.Forall₂ (TransparencyLog.AgreesOutside exempt) ctLogs ctLogs')
    (timestampingAuthorities : List TimestampingAuthority) {logs logs' : List TransparencyLog}
    (logs_agree : List.Forall₂ (TransparencyLog.AgreesOutside exempt) logs logs') :
    Outcome.Alike (AgreesOutside exempt)
      (ofParts mediaType certificateAuthorities ctLogs timestampingAuthorities logs)
      (ofParts mediaType certificateAuthorities ctLogs' timestampingAuthorities logs') := by
  refine (Outcome.alike_self _).bind ?_
  rintro version _ rfl
  refine (Outcome.alike_self _).bind ?_
  rintro authorities _ rfl
  refine ((EntryTable.ofEntries_alike (map_id_eq ctLogs_agree)).mapError _).bind ?_
  rintro _ _ ⟨rfl, rfl⟩
  refine (Outcome.alike_self _).bind ?_
  rintro stampers _ rfl
  refine ((EntryTable.ofEntries_alike (map_id_eq logs_agree)).mapError _).bind ?_
  rintro _ _ ⟨rfl, rfl⟩
  exact .ok ⟨rfl, ctLogs_agree, rfl, logs_agree⟩

theorem ofRecord_alike {record other : RootRecord} (agree : record.AgreesOutside exempt other) :
    Outcome.Alike (AgreesOutside exempt) (ofRecord record) (ofRecord other) := by
  have logs_alike {records others : List LogRecord}
      (agree : List.Forall₂ (LogRecord.AgreesOutside exempt) records others) :
      Outcome.Alike (List.Forall₂ (TransparencyLog.AgreesOutside exempt))
        (records.mapM TransparencyLog.ofRecord) (others.mapM TransparencyLog.ofRecord) :=
    .mapM (agree.imp fun _ _ => TransparencyLog.ofRecord_alike)
  rw [ofRecord, ofRecord, ← agree.mediaType, ← agree.certificateAuthorities,
    ← agree.timestampingAuthorities]
  refine (Outcome.alike_self _).bind ?_
  rintro _ _ rfl
  refine (Outcome.alike_self _).bind ?_
  rintro authorities _ rfl
  refine (logs_alike agree.ctLogs).bind fun ctLogs ctLogs' ctLogs_agree => ?_
  refine (Outcome.alike_self _).bind ?_
  rintro stampers _ rfl
  refine (logs_alike agree.logs).bind fun logs logs' logs_agree => ?_
  exact ofParts_alike _ _ ctLogs_agree _ logs_agree

variable {first second : TrustAnchors}

/-- Searches for an identifier that is not exempt find logs with the same verifier. -/
theorem find?_related {logs others : List TransparencyLog}
    (agree : List.Forall₂ (TransparencyLog.AgreesOutside exempt) logs others) {id : String}
    (outside : id ∉ exempt) :
    Option.Rel (fun log other => log.verifier = other.verifier)
      (logs.find? fun log => log.id = id) (others.find? fun log => log.id = id) := by
  induction agree with
  | nil => exact .none
  | @cons log other _ _ head _ ih =>
    rw [List.find?_cons, List.find?_cons, ← head.id_eq]
    by_cases same : log.id = id
    · simp only [same, decide_true]
      exact .some (head.verifier_eq (same ▸ outside))
    · simp only [same, decide_false]
      exact ih

/-- An identifier that is not exempt is resolved alike. -/
theorem AgreesOutside.verifier_eq (agree : first.AgreesOutside exempt second) {id : String}
    (outside : id ∉ exempt) : first.verifier id = second.verifier id := by
  have logs_found : Option.Rel (fun log other => log.verifier = other.verifier) (first.log? id)
      (second.log? id) := by
    rw [log?, log?, EntryTable.find?_eq_list_find?, EntryTable.find?_eq_list_find?]
    exact find?_related agree.logs outside
  have ctLogs_found : Option.Rel (fun log other => log.verifier = other.verifier) (first.ctLog? id)
      (second.ctLog? id) := by
    rw [ctLog?, ctLog?, EntryTable.find?_eq_list_find?, EntryTable.find?_eq_list_find?]
    exact find?_related agree.ctLogs outside
  have authority_eq : first.certificateAuthority? id = second.certificateAuthority? id :=
    EntryTable.find?_eq_of_perm (.of_eq agree.certificateAuthorities) id
  have stamper_eq : first.timestampingAuthority? id = second.timestampingAuthority? id :=
    EntryTable.find?_eq_of_perm (.of_eq agree.timestampingAuthorities) id
  rw [verifier, verifier, authority_eq, stamper_eq]
  generalize first.log? id = log?, second.log? id = other? at logs_found
  generalize first.ctLog? id = ctLog?, second.ctLog? id = other_ctLog? at ctLogs_found
  cases logs_found with
  | some same => exact same
  | none =>
    cases ctLogs_found with
    | some same => exact same
    | none => rfl

/-- The identifiers of all entries in their places, category by category. -/
def ids (anchors : TrustAnchors) : List (EntryCategory × List String) :=
  idLists anchors.certificateAuthorities anchors.ctLogs anchors.timestampingAuthorities anchors.logs

theorem AgreesOutside.ids_eq (agree : first.AgreesOutside exempt second) :
    first.ids = second.ids := by
  rw [ids, ids, idLists, idLists, agree.certificateAuthorities, agree.timestampingAuthorities,
    map_id_eq agree.ctLogs, map_id_eq agree.logs]

/-- Trust anchors with the same identifiers in the same places that resolve every identifier alike
which is not exempt, whatever each of them has been asked before. -/
structure ResolvesAlike (exempt : Set String) (first second : TrustAnchors) : Prop where
  ids : first.ids = second.ids
  resolve : ∀ questions questions' id, id ∉ exempt →
    ((Resolver.after first questions).resolve id).1 =
      ((Resolver.after second questions').resolve id).1

theorem AgreesOutside.resolvesAlike (agree : first.AgreesOutside exempt second) :
    first.ResolvesAlike exempt second := by
  refine ⟨agree.ids_eq, fun questions questions' id outside => ?_⟩
  rw [Resolver.resolve_after, Resolver.resolve_after, agree.verifier_eq outside]

end TrustAnchors

namespace TrustRoot

/-- What a log declares about itself stays with it.  Two records that differ in declared identifiers
and, for logs of exempt identifiers, in declared algorithms are both accepted or both refused for
the same fault.  All entries keep their identifiers and places, and all identifiers but the exempt
ones are resolved alike; if none is exempt, only declared identifiers differ and nothing shows. -/
theorem isolation {record other : RootRecord} (agree : record.AgreesOutside exempt other) :
    Outcome.Alike (fun root root' => root.ResolvesAlike exempt root'.toTrustAnchors)
      (ofRecord record) (ofRecord other) :=
  (TrustAnchors.ofRecord_alike agree).map fun _ _ agree => agree.resolvesAlike

section Sample

private def honestLog : LogRecord where
  baseUrl := "https://rekor.example"
  hashName? := some "SHA2_256"
  key := ⟨some [1], "PKIX_ED25519", none⟩
  declaredId? := none

private def otherLog : LogRecord where
  baseUrl := ""
  hashName? := none
  key := ⟨some [2], "PKIX_ECDSA_P256_SHA_256", none⟩
  declaredId? := some (sha256 [2])

private def sampleRoot (log ctLog : LogRecord) : RootRecord where
  mediaType := RootVersion.v0_2.mediaType
  logs := [log]
  certificateAuthorities := []
  ctLogs := [ctLog]
  timestampingAuthorities := []

private def forgedLog : LogRecord :=
  { honestLog with
    hashName? := some "MD5", key := ⟨some [1], "PLAIN", none⟩, declaredId? := some (sha256 [2]) }

private def renamedLog : LogRecord :=
  { otherLog with declaredId? := some (sha256 [1]) }

private theorem exists_ofRecord_sampleRoot (log ctLog : LogRecord) (log_valid : log.IsValid)
    (ctLog_valid : ctLog.IsValid) : ∃ root, ofRecord (sampleRoot log ctLog) = .ok root := by
  have valid : (sampleRoot log ctLog).IsValid := by
    constructor <;> simp [sampleRoot, log_valid, ctLog_valid]
  obtain ⟨anchors, accepted⟩ := TrustAnchors.exists_ofRecord_of_isValid valid
  exact ⟨ofAnchors anchors, Outcome.map_eq_ok_iff.mpr ⟨anchors, accepted, rfl⟩⟩

private theorem sampleRoot_agreesOutside {log other ctLog otherCt : LogRecord}
    (logs : log.AgreesOutside exempt other) (ctLogs : ctLog.AgreesOutside exempt otherCt) :
    (sampleRoot log ctLog).AgreesOutside exempt (sampleRoot other otherCt) :=
  ⟨rfl, rfl, .cons ctLogs .nil, rfl, .cons logs .nil⟩

/-- A log that declares unknown algorithms and the identifier of another log, and one that declares
the identifier of the first. -/
theorem isolation_sample :
    ∃ root root' : TrustRoot,
      ofRecord (sampleRoot honestLog otherLog) = .ok root ∧
      ofRecord (sampleRoot forgedLog renamedLog) = .ok root' ∧
      (sampleRoot honestLog otherLog).AgreesOutside {Hex.encode (sha256 [1])}
        (sampleRoot forgedLog renamedLog) ∧
      root.ResolvesAlike {Hex.encode (sha256 [1])} root'.toTrustAnchors := by
  have agree : (sampleRoot honestLog otherLog).AgreesOutside {Hex.encode (sha256 [1])}
      (sampleRoot forgedLog renamedLog) :=
    sampleRoot_agreesOutside
      (LogRecord.agreesOutside_forged (Set.mem_singleton _) rfl "PLAIN" (some "MD5") _)
      (LogRecord.agreesOutside_renamed otherLog _)
  obtain ⟨root, accepted⟩ := exists_ofRecord_sampleRoot honestLog otherLog
    ⟨⟨[1], rfl, by decide⟩, nofun⟩ ⟨⟨[2], rfl, by decide⟩, nofun⟩
  obtain ⟨root', accepted'⟩ := exists_ofRecord_sampleRoot forgedLog renamedLog
    ⟨⟨[1], rfl, by decide⟩, nofun⟩ ⟨⟨[2], rfl, by decide⟩, nofun⟩
  have alike := isolation agree
  rw [accepted, accepted'] at alike
  cases alike with
  | ok resolves => exact ⟨root, root', accepted, accepted', agree, resolves⟩

end Sample

end TrustRoot
end Countersign
