import Countersign.Proofs.Json.Rewrite
import Countersign.Proofs.Trust.RoundTrip

/-!
# What writing a trust root changes

A trust root that was read from a document is written as that document with its times spelled anew,
with an identifier for every log that had none, and with an empty list for every absent one.
Everything else stays as it stood, whether it has a meaning here or not.
-/

namespace Countersign

open Json Json.Value Json.Decoder

namespace PeriodRecord

/-- The messages of a period. -/
def schema : Schema := .message []

/-- A time as it is written: the timestamp of the instant that it denotes. -/
def rewriteTime : Value → Value
  | .string text =>
    match Timestamp.read? text with
    | some instant => .string (Timestamp.write instant)
    | none => .string text
  | value => value

/-- A period as it is written: its ends are written anew. -/
def rewrite (period : Value) : Value :=
  (period.changeMember "start" rewriteTime).changeMember "end" rewriteTime

end PeriodRecord

namespace KeyRecord

/-- The messages of a key. -/
def schema : Schema := .message [("validFor", PeriodRecord.schema)]

/-- A key as it is written. -/
def rewrite (key : Value) : Value :=
  key.changeMember "validFor" PeriodRecord.rewrite

end KeyRecord

namespace LogRecord

/-- The messages of an identifier. -/
def idSchema : Schema := .message [("keyId", .any)]

/-- The messages of a log. -/
def schema : Schema := .message [("publicKey", KeyRecord.schema), ("logId", idSchema)]

/-- Whether a value is not null. -/
def isNotNull : Value → Bool
  | .null => false
  | _ => true

/-- The encoding of the public key of a log. -/
def publicKeyOf (log : Value) : Bytes :=
  match member? "rawBytes" (member? "publicKey" (some log)) with
  | some (.string text) => (Base64.decode text).getD []
  | _ => []

/-- A log as it is written: an absent or null identifier becomes the digest of the key. -/
def rewrite (log : Value) : Value :=
  fillMember isNotNull "logId"
    (.object [("keyId", .string (Base64.encode (sha256 (publicKeyOf log))))])
    (log.changeMember "publicKey" KeyRecord.rewrite)

end LogRecord

namespace AuthorityRecord

/-- The messages of a subject. -/
def subjectSchema : Schema := .message []

/-- The messages of a certificate. -/
def certificateSchema : Schema := .message [("rawBytes", .any)]

/-- The messages of a chain. -/
def chainSchema : Schema := .message [("certificates", .list certificateSchema)]

/-- The messages of an authority. -/
def schema : Schema :=
  .message [("subject", subjectSchema), ("certChain", chainSchema),
    ("validFor", PeriodRecord.schema)]

/-- An authority as it is written. -/
def rewrite (authority : Value) : Value :=
  authority.changeMember "validFor" PeriodRecord.rewrite

end AuthorityRecord

namespace RootRecord

/-- The messages of a trust root. -/
def schema : Schema :=
  .message [("tlogs", .list LogRecord.schema),
    ("certificateAuthorities", .list AuthorityRecord.schema), ("ctlogs", .list LogRecord.schema),
    ("timestampAuthorities", .list AuthorityRecord.schema)]

/-- A list of entries as it is written: each entry is written anew, and an absent list is empty. -/
def rewriteList (name : String) (rewrite : Value → Value) (root : Value) : Value :=
  fillMember (fun _ => true) name (.array []) (root.changeMember name (changeElements rewrite))

/-- A trust root as it is written. -/
def rewrite (root : Value) : Value :=
  rewriteList "timestampAuthorities" AuthorityRecord.rewrite
    (rewriteList "ctlogs" LogRecord.rewrite
      (rewriteList "certificateAuthorities" AuthorityRecord.rewrite
        (rewriteList "tlogs" LogRecord.rewrite root)))

end RootRecord

namespace ValidityPeriod

/-- A time is written as the timestamp of the instant that it denotes. -/
theorem rewrites_time :
    Rewrites .any string (fun text instant => Timestamp.read? text = some instant)
      (fun instant => .string (Timestamp.write instant)) PeriodRecord.rewriteTime := by
  intro base text instant _ _ read denotes
  rw [string_eq_ok_iff.mp read, patch_string, PeriodRecord.rewriteTime, denotes]

theorem patchMember?_time {base? : Option Value} {text? : Option String}
    {instant? : Option Instant} (regular : IsRegular .any base?)
    (read : (nullable string).optionally (.ok none) base? = .ok text?)
    (denotes : text?.map Timestamp.read? = instant?.map some) :
    patchMember? base? ((instant?.map Timestamp.write).map .string) =
      base?.map PeriodRecord.rewriteTime := by
  rw [Option.map_map]
  refine rewrites_time.nullable rfl regular read ?_
  cases text? with
  | none =>
    cases instant? with
    | none => exact .none
    | some instant => cases denotes
  | some text =>
    cases instant? with
    | none => cases denotes
    | some instant => exact .some (Option.some.inj denotes)

/-- What is written for a period is laid over an object member by member, though a period without
ends is left out. -/
private theorem patchMember?_written? (members : List (String × Value))
    (validity : ValidityPeriod) :
    patchMember? (some (.object members)) validity.written? =
      some ((Value.object members).patch (.object (PeriodRecord.written
        ⟨validity.start?.map Timestamp.write, validity.finish?.map Timestamp.write⟩))) := by
  cases record_eq : validity.toRecord with
  | none =>
    obtain rfl := toRecord_eq_none_iff.mp record_eq
    rfl
  | some record =>
    rw [written?, record_eq, record_eq_of_toRecord record_eq]
    rfl

/-- A period is written as the one that was read, with its ends written anew. -/
theorem patchMember?_period {base? : Option Value} {record? : Option PeriodRecord}
    {validity : ValidityPeriod} (regular : IsRegular PeriodRecord.schema base?)
    (read : (nullable PeriodRecord.decoder).optionally (.ok none) base? = .ok record?)
    (described : ofRecord record? = .ok validity) :
    patchMember? base? validity.written? = base?.map PeriodRecord.rewrite := by
  cases record? with
  | none =>
    cases described
    change patchMember? base? none = _
    rw [patchMember?_none]
    cases base? with
    | none => rfl
    | some base =>
      rw [nullable_eq_ok_none_iff.mp read]
      rfl
  | some record =>
    cases base? with
    | none => cases read
    | some base =>
      obtain ⟨ordered, fits⟩ := regular base rfl
      obtain ⟨members, rfl, sorted, fields_ok⟩ :=
        exists_object ordered fits (nullable_eq_ok_some_iff.mp read).2
      have fields := (PeriodRecord.fields_eq_ok_iff sorted.nodup).mp fields_ok
      obtain ⟨start_denotes, finish_denotes, -⟩ := ofTimestamps_eq_ok_iff.mp described
      have start_patched := patchMember?_time (isRegular_any ordered _) fields.start start_denotes
      have finish_patched :=
        patchMember?_time (isRegular_any ordered _) fields.finish finish_denotes
      rw [patchMember?_written?, Option.map_some]
      refine congrArg some (patch_object_eq sorted (PeriodRecord.isSorted_written _)
        ((sorted.changeMembers _ _).changeMembers _ _) fun name => ?_)
      rw [PeriodRecord.lookup?_written, lookup?_changeMembers, lookup?_changeMembers]
      by_cases is_start : "start" = name
      · subst is_start
        simpa using start_patched
      by_cases is_finish : "end" = name
      · subst is_finish
        simpa using finish_patched
      · simp [is_start, is_finish]

end ValidityPeriod

/-- Bytes are written as they stand. -/
theorem Blob.rewrites : Rewrites .any decoder Eq written id := by
  rintro base bytes _ - - read rfl
  rw [decoder_eq_ok_iff.mp read, written, patch_string, id]

/-- A key is written as it stands, with its period written anew. -/
theorem KeyRecord.rewrites :
    Rewrites schema decoder Describes (fun log => .object log.toRecord.key.written) rewrite := by
  intro base key log ordered fits read described
  obtain ⟨members, rfl, sorted, fields_ok⟩ := exists_object ordered fits read
  have fields := (fields_eq_ok_iff sorted.nodup).mp fields_ok
  have publicKey_kept : patchMember? (lookup? "rawBytes" members)
      (log.toRecord.key.publicKey?.map Blob.written) = lookup? "rawBytes" members :=
    Blob.rewrites.nullable_kept (isRegular_any ordered _) fields.publicKey described.publicKey
  have details_kept : patchMember? (lookup? "keyDetails" members)
      (text? log.toRecord.key.details) = lookup? "keyDetails" members :=
    patchMember?_text fields.details described.details
  have period_patched : patchMember? (lookup? "validFor" members)
      (log.toRecord.key.period?.map fun period => .object period.written) =
        (lookup? "validFor" members).map PeriodRecord.rewrite :=
    ValidityPeriod.patchMember?_period (isRegular_member ordered fits List.mem_cons_self)
      fields.period described.period
  refine patch_object_eq sorted (isSorted_written _) (sorted.changeMembers _ _) fun name => ?_
  rw [lookup?_written, lookup?_changeMembers]
  by_cases is_publicKey : "rawBytes" = name
  · subst is_publicKey
    simpa using publicKey_kept
  by_cases is_details : "keyDetails" = name
  · subst is_details
    simpa using details_kept
  by_cases is_period : "validFor" = name
  · subst is_period
    simpa using period_patched
  · simp [is_publicKey, is_details, is_period]

namespace LogRecord

/-- An identifier is written as it stands. -/
theorem rewrites_id : Rewrites idSchema idDecoder Eq idWritten id := by
  refine rewrites_single fun regular read described => ?_
  rw [Blob.rewrites.required regular read described, Option.map_id, id]

/-- An identifier that was declared is written as it stands, and one that was not is filled in. -/
theorem patchMember?_id {base? : Option Value} {record : LogRecord} {log : TransparencyLog}
    (regular : IsRegular idSchema base?)
    (read : (nullable idDecoder).optionally (.ok none) base? = .ok record.declaredId?)
    (accepted : TransparencyLog.ofRecord record = .ok log) :
    patchMember? base? (log.toRecord.declaredId?.map idWritten) =
      if base?.any isNotNull then base? else some (idWritten log.keyId) := by
  obtain ⟨publicKey, validity, -, -, -, rfl⟩ := TransparencyLog.ofRecord_eq_ok_iff.mp accepted
  cases declared : record.declaredId? with
  | none =>
    rw [declared] at read
    have filled : (TransparencyLog.ofParts record publicKey validity).toRecord.declaredId? =
        some (sha256 publicKey) := by
      simp [TransparencyLog.toRecord, TransparencyLog.ofParts, TransparencyLog.keyId, declared]
    rw [filled]
    cases base? with
    | none => rfl
    | some base =>
      rw [nullable_eq_ok_none_iff.mp read]
      rfl
  | some keyId =>
    rw [declared] at read
    have kept : (TransparencyLog.ofParts record publicKey validity).toRecord.declaredId? =
        some keyId := by
      by_cases same : keyId = sha256 publicKey <;>
        simp [TransparencyLog.toRecord, TransparencyLog.ofParts, TransparencyLog.keyId, declared,
          Option.filter, same]
    cases base? with
    | none => cases read
    | some base =>
      have not_null : base ≠ .null := (nullable_eq_ok_some_iff.mp read).1
      have present : isNotNull base = true := by
        cases base with
        | null => exact absurd rfl not_null
        | _ => rfl
      rw [rewrites_id.nullable_kept regular read kept.symm, Option.any_some, present]
      rfl

private theorem rawBytes_eq {base? : Option Value} {publicKey : Bytes}
    (read : (nullable Blob.decoder).optionally (.ok none) base? = .ok (some publicKey)) :
    base? = some (.string (Base64.encode publicKey)) := by
  cases base? with
  | none => cases read
  | some base => rw [Blob.decoder_eq_ok_iff.mp (nullable_eq_ok_some_iff.mp read).2]

theorem publicKeyOf_eq {members : List (String × Value)} {record : LogRecord}
    {log : TransparencyLog} (ordered : (Value.object members).IsOrdered)
    (fits : schema.Fits (.object members)) (fields : record.IsReadFrom members)
    (accepted : TransparencyLog.ofRecord record = .ok log) :
    publicKeyOf (.object members) = log.publicKey := by
  have described := TransparencyLog.describes_key accepted
  have key_read := fields.key
  cases found : lookup? "publicKey" members with
  | none =>
    rw [found] at key_read
    cases key_read
  | some key =>
    rw [found] at key_read
    obtain ⟨key_ordered, key_fits⟩ :=
      isRegular_member ordered fits List.mem_cons_self key found
    obtain ⟨own, rfl, sorted, fields_ok⟩ := exists_object key_ordered key_fits key_read
    have publicKey_read := ((KeyRecord.fields_eq_ok_iff sorted.nodup).mp fields_ok).publicKey
    rw [described.publicKey] at publicKey_read
    have raw_eq : member? "rawBytes" (member? "publicKey" (some (.object members))) =
        some (.string (Base64.encode log.publicKey)) := by
      rw [member?, member?, ownMembers, found]
      exact rawBytes_eq publicKey_read
    have decoded : Base64.decode (Base64.encode log.publicKey) = some log.publicKey :=
      Base64.decode_eq_some_iff.mpr rfl
    rw [publicKeyOf, raw_eq]
    dsimp only
    rw [decoded, Option.getD_some]

/-- A log is written as it stands, with its period written anew and its identifier filled in. -/
theorem rewrites :
    Rewrites schema decoder (fun record log => TransparencyLog.ofRecord record = .ok log)
      (fun log => .object log.toRecord.written) rewrite := by
  intro base record log ordered fits read accepted
  obtain ⟨members, rfl, sorted, fields_ok⟩ := exists_object ordered fits read
  have fields := (fields_eq_ok_iff sorted.nodup).mp fields_ok
  have baseUrl_kept : patchMember? (lookup? "baseUrl" members) (text? log.toRecord.baseUrl) =
      lookup? "baseUrl" members :=
    patchMember?_text fields.baseUrl (TransparencyLog.baseUrl_eq accepted)
  have hashName_kept : patchMember? (lookup? "hashAlgorithm" members)
      (log.toRecord.hashName?.map .string) = lookup? "hashAlgorithm" members :=
    rewrites_string.nullable_kept (isRegular_any ordered _) fields.hashName
      (TransparencyLog.hashName_eq accepted)
  have key_patched : patchMember? (lookup? "publicKey" members)
      (some (.object log.toRecord.key.written)) =
        (lookup? "publicKey" members).map KeyRecord.rewrite :=
    KeyRecord.rewrites.required (isRegular_member ordered fits List.mem_cons_self) fields.key
      (TransparencyLog.describes_key accepted)
  have id_patched : patchMember? (lookup? "logId" members)
      (log.toRecord.declaredId?.map idWritten) =
        if (lookup? "logId" members).any isNotNull then lookup? "logId" members
        else some (idWritten log.keyId) :=
    patchMember?_id (isRegular_member ordered fits (List.mem_cons_of_mem _ List.mem_cons_self))
      fields.declaredId accepted
  have key_digest : Value.object [("keyId", .string (Base64.encode
      (sha256 (publicKeyOf (.object members)))))] = idWritten log.keyId := by
    rw [publicKeyOf_eq ordered fits fields accepted]
    rfl
  rw [rewrite, key_digest]
  refine patch_object_eq sorted (isSorted_written _)
    ((sorted.changeMembers _ _).fillMembers _ _ _) fun name => ?_
  rw [lookup?_written, lookup?_fillMembers, lookup?_changeMembers]
  by_cases is_baseUrl : "baseUrl" = name
  · subst is_baseUrl
    simpa using baseUrl_kept
  by_cases is_hashName : "hashAlgorithm" = name
  · subst is_hashName
    simpa using hashName_kept
  by_cases is_key : "publicKey" = name
  · subst is_key
    simpa using key_patched
  by_cases is_id : "logId" = name
  · subst is_id
    simpa using id_patched
  · simp [is_baseUrl, is_hashName, is_key, is_id]

end LogRecord

/-- A subject is written as it stands. -/
theorem AuthoritySubject.rewrites :
    Rewrites AuthorityRecord.subjectSchema decoder Eq (fun subject => .object subject.written)
      id := by
  rintro base subject _ ordered fits read rfl
  obtain ⟨members, rfl, sorted, fields_ok⟩ := exists_object ordered fits read
  have fields := (fields_eq_ok_iff sorted.nodup).mp fields_ok
  refine patch_object_eq sorted (isSorted_written _) sorted fun name => ?_
  rw [lookup?_written]
  by_cases is_organization : "organization" = name
  · subst is_organization
    simpa using patchMember?_text fields.organization rfl
  by_cases is_commonName : "commonName" = name
  · subst is_commonName
    simpa using patchMember?_text fields.commonName rfl
  · simp [is_organization, is_commonName]

namespace AuthorityRecord

/-- A certificate is written as it stands. -/
theorem rewrites_certificate :
    Rewrites certificateSchema certificateDecoder Eq certificateWritten id := by
  refine rewrites_single fun regular read described => ?_
  rw [Blob.rewrites.required regular read described, Option.map_id, id]

/-- A chain that has certificates is written as it stands. -/
theorem rewrites_chain :
    Rewrites chainSchema chainDecoder (fun chain ders => chain = ders ∧ ders ≠ []) chainWritten
      id := by
  refine rewrites_single fun regular read described => ?_
  obtain ⟨rfl, nonempty⟩ := described
  exact rewrites_certificate.list_kept regular read nonempty

/-- An authority is written as it stands, with its period written anew. -/
theorem rewrites :
    Rewrites schema decoder (fun record authority => Authority.ofRecord record = .ok authority)
      (fun authority => .object authority.toRecord.written) rewrite := by
  intro base record authority ordered fits read accepted
  obtain ⟨members, rfl, sorted, fields_ok⟩ := exists_object ordered fits read
  have fields := (fields_eq_ok_iff sorted.nodup).mp fields_ok
  obtain ⟨chain_eq, period_ok, uri_eq, subject_eq⟩ := Authority.ofRecord_eq_ok_iff.mp accepted
  have subject_kept : patchMember? (lookup? "subject" members)
      (authority.toRecord.subject?.map fun subject => .object subject.written) =
        lookup? "subject" members :=
    AuthoritySubject.rewrites.nullable_kept (isRegular_member ordered fits List.mem_cons_self)
      fields.subject subject_eq.symm
  have uri_kept : patchMember? (lookup? "uri" members) (text? authority.toRecord.uri) =
      lookup? "uri" members :=
    patchMember?_text fields.uri (Authority.getD_uri uri_eq)
  have chain_kept : patchMember? (lookup? "certChain" members)
      (some (chainWritten authority.toRecord.chain)) = lookup? "certChain" members := by
    have regular : IsRegular chainSchema (lookup? "certChain" members) :=
      isRegular_member ordered fits (List.mem_cons_of_mem _ List.mem_cons_self)
    have described : record.chain = authority.toRecord.chain ∧ authority.toRecord.chain ≠ [] :=
      ⟨chain_eq.symm, nofun⟩
    rw [rewrites_chain.required regular fields.chain described, Option.map_id, id]
  have period_patched : patchMember? (lookup? "validFor" members)
      (authority.toRecord.period?.map fun period => .object period.written) =
        (lookup? "validFor" members).map PeriodRecord.rewrite :=
    ValidityPeriod.patchMember?_period (isRegular_member ordered fits
      (List.mem_cons_of_mem _ (List.mem_cons_of_mem _ List.mem_cons_self))) fields.period period_ok
  refine patch_object_eq sorted (isSorted_written _) (sorted.changeMembers _ _) fun name => ?_
  rw [lookup?_written, lookup?_changeMembers]
  by_cases is_subject : "subject" = name
  · subst is_subject
    simpa using subject_kept
  by_cases is_uri : "uri" = name
  · subst is_uri
    simpa using uri_kept
  by_cases is_chain : "certChain" = name
  · subst is_chain
    simpa using chain_kept
  by_cases is_period : "validFor" = name
  · subst is_period
    simpa using period_patched
  · simp [is_subject, is_uri, is_chain, is_period]

end AuthorityRecord

namespace RootRecord

private def rewrittenMembers (name : String) (rewrite : Value → Value)
    (members : List (String × Value)) : List (String × Value) :=
  fillMembers (fun _ => true) name (.array []) (changeMembers name (changeElements rewrite) members)

private theorem isSorted_rewrittenMembers {members : List (String × Value)}
    (sorted : IsSorted members) (name : String) (rewrite : Value → Value) :
    IsSorted (rewrittenMembers name rewrite members) :=
  (sorted.changeMembers _ _).fillMembers _ _ _

private theorem lookup?_rewrittenMembers (name key : String) (rewrite : Value → Value)
    (members : List (String × Value)) :
    lookup? name (rewrittenMembers key rewrite members) =
      if key = name then
        some (((lookup? name members).map (changeElements rewrite)).getD (.array []))
      else lookup? name members := by
  rw [rewrittenMembers, lookup?_fillMembers, lookup?_changeMembers]
  by_cases here : key = name
  · subst here
    cases lookup? key members <;> simp
  · simp [here]

/-- Logs are rewritten in their places. -/
theorem patchMember?_logs {base? : Option Value} {records : List LogRecord}
    {logs : List TransparencyLog} (regular : IsRegular (.list LogRecord.schema) base?)
    (read : (Decoder.list LogRecord.decoder).optionally (.ok []) base? = .ok records)
    (described : TrustAnchors.DescribesLogs records logs) :
    patchMember? base? (some (logsWritten (logs.map TransparencyLog.toRecord))) =
      some ((base?.map (changeElements LogRecord.rewrite)).getD (.array [])) := by
  rw [logsWritten, List.map_map]
  exact LogRecord.rewrites.list regular read described

/-- Authorities are rewritten in their places. -/
theorem patchMember?_authorities {α : Type} {authority : α → Authority} {base? : Option Value}
    {records : List AuthorityRecord} {entries : List α}
    (regular : IsRegular (.list AuthorityRecord.schema) base?)
    (read : (Decoder.list AuthorityRecord.decoder).optionally (.ok []) base? = .ok records)
    (described : TrustAnchors.DescribesAuthorities authority records entries) :
    patchMember? base? (some (authoritiesWritten
        (entries.map fun entry => (authority entry).toRecord))) =
      some ((base?.map (changeElements AuthorityRecord.rewrite)).getD (.array [])) := by
  have authorities_described : List.Forall₂
      (fun record authority => Authority.ofRecord record = .ok authority) records
      (entries.map authority) := List.forall₂_map_right_iff.mpr described
  have patched := AuthorityRecord.rewrites.list regular read authorities_described
  rw [List.map_map] at patched
  rw [authoritiesWritten, List.map_map]
  exact patched

/-- A trust root is written as it stands, with its entries written anew and absent lists empty. -/
theorem rewrites :
    Rewrites schema decoder (fun record anchors => TrustAnchors.ofRecord record = .ok anchors)
      (fun anchors => .object anchors.toRecord.written) rewrite := by
  intro base record anchors ordered fits read accepted
  obtain ⟨members, rfl, sorted, fields_ok⟩ := exists_object ordered fits read
  have fields := (fields_eq_ok_iff sorted.nodup).mp fields_ok
  obtain ⟨version_eq, authorities, ctLogs, stampers, logs⟩ :=
    TrustAnchors.ofRecord_eq_ok_iff.mp accepted
  have mediaType_kept : patchMember? (lookup? "mediaType" members)
      (some (.string anchors.version.mediaType)) = lookup? "mediaType" members := by
    rw [rewrites_string.required (isRegular_any ordered _) fields.mediaType version_eq,
      Option.map_id, id]
  have logs_patched := patchMember?_logs
    (isRegular_member ordered fits (by simp)) fields.logs logs
  have authorities_patched := patchMember?_authorities
    (isRegular_member ordered fits (by simp)) fields.certificateAuthorities authorities
  have ctLogs_patched := patchMember?_logs
    (isRegular_member ordered fits (by simp)) fields.ctLogs ctLogs
  have stampers_patched := patchMember?_authorities
    (isRegular_member ordered fits (by simp)) fields.timestampingAuthorities stampers
  have target : rewrite (.object members) = .object (rewrittenMembers "timestampAuthorities"
      AuthorityRecord.rewrite (rewrittenMembers "ctlogs" LogRecord.rewrite
        (rewrittenMembers "certificateAuthorities" AuthorityRecord.rewrite
          (rewrittenMembers "tlogs" LogRecord.rewrite members)))) := rfl
  rw [target]
  refine patch_object_eq sorted (isSorted_written _) (isSorted_rewrittenMembers
    (isSorted_rewrittenMembers (isSorted_rewrittenMembers (isSorted_rewrittenMembers sorted _ _)
      _ _) _ _) _ _) fun name => ?_
  rw [lookup?_written]
  simp only [lookup?_rewrittenMembers]
  by_cases is_mediaType : "mediaType" = name
  · subst is_mediaType
    simpa [TrustAnchors.toRecord] using mediaType_kept
  by_cases is_logs : "tlogs" = name
  · subst is_logs
    simpa [TrustAnchors.toRecord] using logs_patched
  by_cases is_authorities : "certificateAuthorities" = name
  · subst is_authorities
    simpa [TrustAnchors.toRecord] using authorities_patched
  by_cases is_ctLogs : "ctlogs" = name
  · subst is_ctLogs
    simpa [TrustAnchors.toRecord] using ctLogs_patched
  by_cases is_stampers : "timestampAuthorities" = name
  · subst is_stampers
    simpa [TrustAnchors.toRecord] using stampers_patched
  · simp [is_mediaType, is_logs, is_authorities, is_ctLogs, is_stampers]

end RootRecord

namespace TrustRoot

/-- A trust root that was read from a document is written as that document with its times spelled
anew, identifiers filled in for logs that declare none, and empty lists for absent ones. -/
theorem fidelity {text : String} {source : Value} {root : TrustRoot}
    (parsed : valueOfText (Text.read text) = .ok source) (accepted : ofJson text = .ok root)
    (fits : RootRecord.schema.Fits source) :
    root.toValue = RootRecord.rewrite source ∧
      root.toJson = (RootRecord.rewrite source).toDocument.compact := by
  obtain ⟨_, record, source_ok, record_ok, anchors_ok, source_eq⟩ := ofJson_eq_ok_iff.mp accepted
  cases parsed.symm.trans source_ok
  obtain ⟨kept, rfl, -⟩ := valueOfText_eq_ok_iff.mp parsed
  have rewritten : root.toValue = RootRecord.rewrite (ofDocument (Text.read text).document) := by
    rw [toValue, source_eq, anchorValue_eq]
    exact RootRecord.rewrites (isWellFormed_ofDocument kept).isOrdered fits record_ok anchors_ok
  exact ⟨rewritten, by rw [toJson, rewritten]⟩

section Sample

private def plainPeriod : Value :=
  .object [("note", .number (.natural 7)), ("start", .string "2021-01-12T12:53:27+01:00")]

private def plainKey : Value :=
  .object [("keyDetails", .string "RSA"), ("rawBytes", .string "AQ=="), ("validFor", plainPeriod)]

private def plainLog : Value :=
  .object [("logId", .null), ("publicKey", plainKey), ("vendor", .array [.null])]

private def plain : Value :=
  .object [("mediaType", .string RootVersion.v0_2.mediaType), ("tlogs", .array [plainLog])]

private theorem plain_formed : plain.IsWellFormed Number.IsRestored Document.maxDepth := by
  have note : (Number.natural 7).IsRestored :=
    ⟨Numeral.isSpelled_ofInt 7, Numeral.denotation?_ofInt_natural (by decide)⟩
  have period : plainPeriod.IsWellFormed Number.IsRestored 123 := by
    refine .object (by unfold IsSorted; decide) ?_
    simp only [List.forall_mem_cons]
    exact ⟨.number note, .string _, nofun⟩
  have key : plainKey.IsWellFormed Number.IsRestored 124 := by
    refine .object (by unfold IsSorted; decide) ?_
    simp only [List.forall_mem_cons]
    exact ⟨.string _, .string _, period, nofun⟩
  have log : plainLog.IsWellFormed Number.IsRestored 125 := by
    refine .object (by unfold IsSorted; decide) ?_
    simp only [List.forall_mem_cons]
    exact ⟨.null, key, .array (List.forall_mem_singleton.mpr .null), nofun⟩
  refine .object (by unfold IsSorted; decide) ?_
  simp only [List.forall_mem_cons]
  exact ⟨.string _, .array (List.forall_mem_singleton.mpr log), nofun⟩

private theorem plain_fits : RootRecord.schema.Fits plain := by
  have period : PeriodRecord.schema.Fits plainPeriod := .object nofun
  have key : KeyRecord.schema.Fits plainKey := by
    refine .object fun name schema listed value found => ?_
    cases List.mem_singleton.mp listed
    cases found
    exact period
  have log : LogRecord.schema.Fits plainLog := by
    refine .object fun name schema listed value found => ?_
    rcases List.mem_cons.mp listed with here | there
    · cases here
      cases found
      exact key
    · cases List.mem_singleton.mp there
      cases found
      exact .null _
  refine .object fun name schema listed value found => ?_
  simp only [List.mem_cons, List.not_mem_nil, or_false, Prod.mk.injEq] at listed
  rcases listed with ⟨rfl, rfl⟩ | ⟨rfl, rfl⟩ | ⟨rfl, rfl⟩ | ⟨rfl, rfl⟩
  · cases found
    exact .array (List.forall_mem_singleton.mpr log)
  all_goals cases found

/-- A log whose identifier is null, whose key starts at a time with an offset, and in which numbers
and members of no meaning stand. -/
theorem fidelity_sample :
    ∃ root, valueOfText (Text.read plain.toDocument.compact) = .ok plain ∧
      ofJson plain.toDocument.compact = .ok root ∧ RootRecord.schema.Fits plain ∧
      root.toValue = RootRecord.rewrite plain ∧
      root.toJson = (RootRecord.rewrite plain).toDocument.compact := by
  have parsed := (valueOfText_written plain_formed).1
  have decoded : RootRecord.decoder plain.toDocument = .ok sampleRecord := by decide +kernel
  obtain ⟨anchors, accepted, -⟩ := sampleRecord_described
  have read : ofJson plain.toDocument.compact = .ok ⟨anchors, some plain⟩ :=
    ofJson_eq_ok_iff.mpr ⟨plain, sampleRecord, parsed, decoded, accepted, rfl⟩
  exact ⟨_, parsed, read, plain_fits, fidelity parsed read plain_fits⟩

end Sample

end TrustRoot
end Countersign
