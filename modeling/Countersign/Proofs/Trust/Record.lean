import Countersign.Proofs.Json.Persistence
import Countersign.Proofs.Text.Base64
import Countersign.Trust.Record

/-!
# The members of a trust root document

Each record of a trust root document is read from the members with its names, one field from one
member; the other members play no part.  A lookup in what is written for a record finds what its
fields are written as.
-/

namespace Countersign

open Json Json.Value

theorem Blob.decoder_eq_ok_iff {value : Value} {bytes : Bytes} :
    decoder value.toDocument = .ok bytes ↔ value = .string (Base64.encode bytes) := by
  simp [decoder, Decoder.stringVia_eq_ok_iff, Base64.decode_eq_some_iff]

/-- The value that is written for bytes. -/
def Blob.written (bytes : Bytes) : Value :=
  .string (Base64.encode bytes)

@[simp]
theorem Blob.ofDocument_toDocument (bytes : Bytes) :
    ofDocument (toDocument bytes) = written bytes := by
  rw [toDocument, ofDocument, written]

theorem Blob.persists (missing : Except DecodeError Bytes) :
    Decoder.Persists missing decoder Eq fun bytes => some (written bytes) :=
  Decoder.persists_stringVia missing fun _ => Base64.decode_eq_some_iff.mpr rfl

variable {members : List (String × Value)} {accepts : Number → Prop}

private theorem isWellFormed_text {depth : Nat} (text : String) :
    (ofDocument (.string text)).IsWellFormed accepts depth := by
  rw [ofDocument]
  exact .string text

private theorem isWellFormed_single {depth : Nat} {name : String} {value : Value}
    (formed : value.IsWellFormed accepts depth) :
    (Value.object [(name, value)]).IsWellFormed accepts (depth + 1) := by
  refine .object (List.pairwise_singleton _ _) fun member listed => ?_
  rw [List.mem_singleton.mp listed]
  exact formed

private theorem isWellFormed_map {α : Type} {depth : Nat} {written : α → Value}
    (formed : ∀ part, (written part).IsWellFormed accepts depth) (parts : List α) :
    (Value.array (parts.map written)).IsWellFormed accepts (depth + 1) := by
  refine .array fun element listed => ?_
  obtain ⟨part, -, rfl⟩ := List.mem_map.mp listed
  exact formed part

private theorem isWellFormed_blob {depth : Nat} (bytes : Bytes) :
    (ofDocument (Blob.toDocument bytes)).IsWellFormed accepts depth := by
  rw [Blob.ofDocument_toDocument]
  exact .string _

namespace PeriodRecord

/-- The fields of a period. -/
def fields : Fields PeriodRecord :=
  mk <$> Fields.nullable "start" Decoder.string <*> Fields.nullable "end" Decoder.string

/-- The members from which a period is read. -/
structure IsReadFrom (members : List (String × Value)) (record : PeriodRecord) : Prop where
  start : (Decoder.nullable Decoder.string).optionally (.ok none) (lookup? "start" members) =
    .ok record.start?
  finish : (Decoder.nullable Decoder.string).optionally (.ok none) (lookup? "end" members) =
    .ok record.finish?

theorem fields_eq_ok_iff (distinct : (members.map Prod.fst).Nodup) {record : PeriodRecord} :
    fields (toMembers members) = .ok record ↔ record.IsReadFrom members := by
  simp only [fields, Fields.seq_eq_ok_iff, Fields.map_eq_ok_iff, Fields.nullable,
    Fields.member_eq_ok_iff distinct]
  constructor
  · rintro ⟨_, finish?, ⟨start?, start, rfl⟩, finish, rfl⟩
    exact ⟨start, finish⟩
  · rintro ⟨start, finish⟩
    exact ⟨_, _, ⟨_, start, rfl⟩, finish, rfl⟩

/-- The members that are written for a period. -/
def written (record : PeriodRecord) : List (String × Value) :=
  ofSlots [
    .of? "start" record.start? .string,
    .of? "end" record.finish? .string]

@[simp]
theorem ofDocument_toDocument (record : PeriodRecord) :
    ofDocument record.toDocument = .object record.written :=
  ofDocument_record _

theorem isSorted_written (record : PeriodRecord) : IsSorted record.written :=
  isSorted_ofSlots _

theorem lookup?_written (name : String) (record : PeriodRecord) :
    lookup? name record.written =
      if "start" = name then record.start?.map .string
      else if "end" = name then record.finish?.map .string
      else none := by
  rw [written, lookup?_ofSlots]
  split_ifs <;> try subst name <;> simp [ofDocument]
  all_goals simp_all

theorem isWellFormed_written (depth : Nat) (record : PeriodRecord) :
    (Value.object record.written).IsWellFormed accepts (depth + 1) := by
  apply isWellFormed_ofSlots
  simp only [List.forall_mem_cons]
  exact ⟨Slot.isWellFormed_of? isWellFormed_text, Slot.isWellFormed_of? isWellFormed_text, nofun⟩

end PeriodRecord

namespace KeyRecord

/-- The fields of a key. -/
def fields : Fields KeyRecord :=
  mk <$> Fields.nullable "rawBytes" Blob.decoder
    <*> Fields.optional "keyDetails" "" Decoder.string
    <*> Fields.nullable "validFor" PeriodRecord.decoder

/-- The members from which a key is read. -/
structure IsReadFrom (members : List (String × Value)) (record : KeyRecord) : Prop where
  publicKey : (Decoder.nullable Blob.decoder).optionally (.ok none) (lookup? "rawBytes" members) =
    .ok record.publicKey?
  details : Decoder.string.optionally (.ok "") (lookup? "keyDetails" members) = .ok record.details
  period : (Decoder.nullable PeriodRecord.decoder).optionally (.ok none)
    (lookup? "validFor" members) = .ok record.period?

theorem fields_eq_ok_iff (distinct : (members.map Prod.fst).Nodup) {record : KeyRecord} :
    fields (toMembers members) = .ok record ↔ record.IsReadFrom members := by
  simp only [fields, Fields.seq_eq_ok_iff, Fields.map_eq_ok_iff, Fields.nullable, Fields.optional,
    Fields.member_eq_ok_iff distinct]
  constructor
  · rintro ⟨_, period?, ⟨_, details, ⟨publicKey?, publicKey, rfl⟩, details_read, rfl⟩, period, rfl⟩
    exact ⟨publicKey, details_read, period⟩
  · rintro ⟨publicKey, details, period⟩
    exact ⟨_, _, ⟨_, _, ⟨_, publicKey, rfl⟩, details, rfl⟩, period, rfl⟩

/-- The members that are written for a key. -/
def written (record : KeyRecord) : List (String × Value) :=
  ofSlots [
    .of? "rawBytes" record.publicKey? Blob.toDocument,
    .unlessEmpty record.details.isEmpty "keyDetails" (.string record.details),
    .of? "validFor" record.period? PeriodRecord.toDocument]

@[simp]
theorem ofDocument_toDocument (record : KeyRecord) :
    ofDocument record.toDocument = .object record.written :=
  ofDocument_record _

theorem isSorted_written (record : KeyRecord) : IsSorted record.written :=
  isSorted_ofSlots _

theorem lookup?_written (name : String) (record : KeyRecord) :
    lookup? name record.written =
      if "rawBytes" = name then record.publicKey?.map Blob.written
      else if "keyDetails" = name then text? record.details
      else if "validFor" = name then record.period?.map fun period => .object period.written
      else none := by
  rw [written, lookup?_ofSlots]
  split_ifs <;> try subst name <;> simp [ofDocument, text?]
  all_goals simp_all

theorem isWellFormed_written (depth : Nat) (record : KeyRecord) :
    (Value.object record.written).IsWellFormed accepts (depth + 2) := by
  apply isWellFormed_ofSlots
  simp only [List.forall_mem_cons]
  refine ⟨Slot.isWellFormed_of? isWellFormed_blob,
    Slot.isWellFormed_unlessEmpty (isWellFormed_text _),
    Slot.isWellFormed_of? fun period => ?_, nofun⟩
  rw [PeriodRecord.ofDocument_toDocument]
  exact period.isWellFormed_written depth

end KeyRecord

namespace LogRecord

/-- The value that is written for an identifier. -/
def idWritten (keyId : Bytes) : Value :=
  .object [("keyId", Blob.written keyId)]

@[simp]
theorem ofDocument_idDocument (keyId : Bytes) :
    ofDocument (idDocument keyId) = idWritten keyId := by
  rw [idDocument, ofDocument_record_always, Blob.ofDocument_toDocument, idWritten]

/-- The fields of a log. -/
def fields : Fields LogRecord :=
  mk <$> Fields.optional "baseUrl" "" Decoder.string
    <*> Fields.nullable "hashAlgorithm" Decoder.string
    <*> Fields.required "publicKey" KeyRecord.decoder
    <*> Fields.nullable "logId" idDecoder

/-- The members from which a log is read. -/
structure IsReadFrom (members : List (String × Value)) (record : LogRecord) : Prop where
  baseUrl : Decoder.string.optionally (.ok "") (lookup? "baseUrl" members) = .ok record.baseUrl
  hashName : (Decoder.nullable Decoder.string).optionally (.ok none)
    (lookup? "hashAlgorithm" members) = .ok record.hashName?
  key : KeyRecord.decoder.optionally (.error .malformed) (lookup? "publicKey" members) =
    .ok record.key
  declaredId : (Decoder.nullable idDecoder).optionally (.ok none) (lookup? "logId" members) =
    .ok record.declaredId?

theorem fields_eq_ok_iff (distinct : (members.map Prod.fst).Nodup) {record : LogRecord} :
    fields (toMembers members) = .ok record ↔ record.IsReadFrom members := by
  simp only [fields, Fields.seq_eq_ok_iff, Fields.map_eq_ok_iff, Fields.nullable, Fields.optional,
    Fields.required, Fields.member_eq_ok_iff distinct]
  constructor
  · rintro ⟨_, declaredId?, ⟨_, key, ⟨_, hashName?, ⟨baseUrl, baseUrl_read, rfl⟩, hashName, rfl⟩,
      key_read, rfl⟩, declaredId, rfl⟩
    exact ⟨baseUrl_read, hashName, key_read, declaredId⟩
  · rintro ⟨baseUrl, hashName, key, declaredId⟩
    exact ⟨_, _, ⟨_, _, ⟨_, _, ⟨_, baseUrl, rfl⟩, hashName, rfl⟩, key, rfl⟩, declaredId, rfl⟩

/-- The members that are written for a log. -/
def written (record : LogRecord) : List (String × Value) :=
  ofSlots [
    .unlessEmpty record.baseUrl.isEmpty "baseUrl" (.string record.baseUrl),
    .of? "hashAlgorithm" record.hashName? .string,
    .always "publicKey" record.key.toDocument,
    .of? "logId" record.declaredId? idDocument]

@[simp]
theorem ofDocument_toDocument (record : LogRecord) :
    ofDocument record.toDocument = .object record.written :=
  ofDocument_record _

theorem isSorted_written (record : LogRecord) : IsSorted record.written :=
  isSorted_ofSlots _

theorem lookup?_written (name : String) (record : LogRecord) :
    lookup? name record.written =
      if "baseUrl" = name then text? record.baseUrl
      else if "hashAlgorithm" = name then record.hashName?.map .string
      else if "publicKey" = name then some (.object record.key.written)
      else if "logId" = name then record.declaredId?.map idWritten
      else none := by
  rw [written, lookup?_ofSlots]
  split_ifs <;> try subst name <;> simp [ofDocument, text?]
  all_goals simp_all

theorem isWellFormed_written (depth : Nat) (record : LogRecord) :
    (Value.object record.written).IsWellFormed accepts (depth + 3) := by
  apply isWellFormed_ofSlots
  simp only [List.forall_mem_cons]
  refine ⟨Slot.isWellFormed_unlessEmpty (isWellFormed_text _),
    Slot.isWellFormed_of? isWellFormed_text, Slot.isWellFormed_always ?_,
    Slot.isWellFormed_of? fun keyId => ?_, nofun⟩
  · rw [KeyRecord.ofDocument_toDocument]
    exact record.key.isWellFormed_written depth
  · rw [ofDocument_idDocument]
    exact isWellFormed_single (.string _)

end LogRecord

namespace AuthoritySubject

/-- The fields of a subject. -/
def fields : Fields AuthoritySubject :=
  mk <$> Fields.optional "organization" "" Decoder.string
    <*> Fields.optional "commonName" "" Decoder.string

/-- The members from which a subject is read. -/
structure IsReadFrom (members : List (String × Value)) (subject : AuthoritySubject) : Prop where
  organization : Decoder.string.optionally (.ok "") (lookup? "organization" members) =
    .ok subject.organization
  commonName : Decoder.string.optionally (.ok "") (lookup? "commonName" members) =
    .ok subject.commonName

theorem fields_eq_ok_iff (distinct : (members.map Prod.fst).Nodup) {subject : AuthoritySubject} :
    fields (toMembers members) = .ok subject ↔ subject.IsReadFrom members := by
  simp only [fields, Fields.seq_eq_ok_iff, Fields.map_eq_ok_iff, Fields.optional,
    Fields.member_eq_ok_iff distinct]
  constructor
  · rintro ⟨_, commonName, ⟨organization, organization_read, rfl⟩, commonName_read, rfl⟩
    exact ⟨organization_read, commonName_read⟩
  · rintro ⟨organization, commonName⟩
    exact ⟨_, _, ⟨_, organization, rfl⟩, commonName, rfl⟩

/-- The members that are written for a subject. -/
def written (subject : AuthoritySubject) : List (String × Value) :=
  ofSlots [
    .unlessEmpty subject.organization.isEmpty "organization" (.string subject.organization),
    .unlessEmpty subject.commonName.isEmpty "commonName" (.string subject.commonName)]

@[simp]
theorem ofDocument_toDocument (subject : AuthoritySubject) :
    ofDocument subject.toDocument = .object subject.written :=
  ofDocument_record _

theorem isSorted_written (subject : AuthoritySubject) : IsSorted subject.written :=
  isSorted_ofSlots _

theorem lookup?_written (name : String) (subject : AuthoritySubject) :
    lookup? name subject.written =
      if "organization" = name then text? subject.organization
      else if "commonName" = name then text? subject.commonName
      else none := by
  rw [written, lookup?_ofSlots]
  split_ifs <;> try subst name <;> simp [ofDocument, text?]
  all_goals simp_all

theorem isWellFormed_written (depth : Nat) (subject : AuthoritySubject) :
    (Value.object subject.written).IsWellFormed accepts (depth + 1) := by
  apply isWellFormed_ofSlots
  simp only [List.forall_mem_cons]
  exact ⟨Slot.isWellFormed_unlessEmpty (isWellFormed_text _),
    Slot.isWellFormed_unlessEmpty (isWellFormed_text _), nofun⟩

end AuthoritySubject

namespace AuthorityRecord

/-- The value that is written for a certificate. -/
def certificateWritten (der : Bytes) : Value :=
  .object [("rawBytes", Blob.written der)]

@[simp]
theorem ofDocument_certificateDocument (der : Bytes) :
    ofDocument (certificateDocument der) = certificateWritten der := by
  rw [certificateDocument, ofDocument_record_always, Blob.ofDocument_toDocument, certificateWritten]

/-- The value that is written for a chain. -/
def chainWritten (chain : List Bytes) : Value :=
  .object [("certificates", .array (chain.map certificateWritten))]

@[simp]
theorem ofDocument_chainDocument (chain : List Bytes) :
    ofDocument (chainDocument chain) = chainWritten chain := by
  rw [chainDocument, ofDocument_record_always, ofDocument_list, chainWritten]
  simp only [ofDocument_certificateDocument]

/-- The fields of an authority. -/
def fields : Fields AuthorityRecord :=
  mk <$> Fields.nullable "subject" AuthoritySubject.decoder
    <*> Fields.optional "uri" "" Decoder.string
    <*> Fields.required "certChain" chainDecoder
    <*> Fields.nullable "validFor" PeriodRecord.decoder

/-- The members from which an authority is read. -/
structure IsReadFrom (members : List (String × Value)) (record : AuthorityRecord) : Prop where
  subject : (Decoder.nullable AuthoritySubject.decoder).optionally (.ok none)
    (lookup? "subject" members) = .ok record.subject?
  uri : Decoder.string.optionally (.ok "") (lookup? "uri" members) = .ok record.uri
  chain : chainDecoder.optionally (.error .malformed) (lookup? "certChain" members) =
    .ok record.chain
  period : (Decoder.nullable PeriodRecord.decoder).optionally (.ok none)
    (lookup? "validFor" members) = .ok record.period?

theorem fields_eq_ok_iff (distinct : (members.map Prod.fst).Nodup) {record : AuthorityRecord} :
    fields (toMembers members) = .ok record ↔ record.IsReadFrom members := by
  simp only [fields, Fields.seq_eq_ok_iff, Fields.map_eq_ok_iff, Fields.nullable, Fields.optional,
    Fields.required, Fields.member_eq_ok_iff distinct]
  constructor
  · rintro ⟨_, period?, ⟨_, chain, ⟨_, uri, ⟨subject?, subject, rfl⟩, uri_read, rfl⟩, chain_read,
      rfl⟩, period, rfl⟩
    exact ⟨subject, uri_read, chain_read, period⟩
  · rintro ⟨subject, uri, chain, period⟩
    exact ⟨_, _, ⟨_, _, ⟨_, _, ⟨_, subject, rfl⟩, uri, rfl⟩, chain, rfl⟩, period, rfl⟩

/-- The members that are written for an authority. -/
def written (record : AuthorityRecord) : List (String × Value) :=
  ofSlots [
    .of? "subject" record.subject? AuthoritySubject.toDocument,
    .unlessEmpty record.uri.isEmpty "uri" (.string record.uri),
    .always "certChain" (chainDocument record.chain),
    .of? "validFor" record.period? PeriodRecord.toDocument]

@[simp]
theorem ofDocument_toDocument (record : AuthorityRecord) :
    ofDocument record.toDocument = .object record.written :=
  ofDocument_record _

theorem isSorted_written (record : AuthorityRecord) : IsSorted record.written :=
  isSorted_ofSlots _

theorem lookup?_written (name : String) (record : AuthorityRecord) :
    lookup? name record.written =
      if "subject" = name then record.subject?.map fun subject => .object subject.written
      else if "uri" = name then text? record.uri
      else if "certChain" = name then some (chainWritten record.chain)
      else if "validFor" = name then record.period?.map fun period => .object period.written
      else none := by
  rw [written, lookup?_ofSlots]
  split_ifs <;> try subst name <;> simp [ofDocument, text?]
  all_goals simp_all

theorem isWellFormed_written (depth : Nat) (record : AuthorityRecord) :
    (Value.object record.written).IsWellFormed accepts (depth + 4) := by
  apply isWellFormed_ofSlots
  simp only [List.forall_mem_cons]
  refine ⟨Slot.isWellFormed_of? fun subject => ?_,
    Slot.isWellFormed_unlessEmpty (isWellFormed_text _), Slot.isWellFormed_always ?_,
    Slot.isWellFormed_of? fun period => ?_, nofun⟩
  · rw [AuthoritySubject.ofDocument_toDocument]
    exact subject.isWellFormed_written (depth + 2)
  · rw [ofDocument_chainDocument]
    exact isWellFormed_single (isWellFormed_map (fun der => isWellFormed_single (.string _)) _)
  · rw [PeriodRecord.ofDocument_toDocument]
    exact period.isWellFormed_written (depth + 2)

end AuthorityRecord

namespace RootRecord

/-- The value that is written for logs. -/
def logsWritten (logs : List LogRecord) : Value :=
  .array (logs.map fun log => .object log.written)

@[simp]
theorem ofDocument_logs (logs : List LogRecord) :
    ofDocument (.list LogRecord.toDocument logs) = logsWritten logs := by
  rw [ofDocument_list, logsWritten]
  simp only [LogRecord.ofDocument_toDocument]

/-- The value that is written for authorities. -/
def authoritiesWritten (authorities : List AuthorityRecord) : Value :=
  .array (authorities.map fun authority => .object authority.written)

@[simp]
theorem ofDocument_authorities (authorities : List AuthorityRecord) :
    ofDocument (.list AuthorityRecord.toDocument authorities) = authoritiesWritten authorities := by
  rw [ofDocument_list, authoritiesWritten]
  simp only [AuthorityRecord.ofDocument_toDocument]

/-- The fields of a trust root. -/
def fields : Fields RootRecord :=
  mk <$> Fields.required "mediaType" Decoder.string
    <*> Fields.optional "tlogs" [] (Decoder.list LogRecord.decoder)
    <*> Fields.optional "certificateAuthorities" [] (Decoder.list AuthorityRecord.decoder)
    <*> Fields.optional "ctlogs" [] (Decoder.list LogRecord.decoder)
    <*> Fields.optional "timestampAuthorities" [] (Decoder.list AuthorityRecord.decoder)

/-- The members from which a trust root is read. -/
structure IsReadFrom (members : List (String × Value)) (record : RootRecord) : Prop where
  mediaType : Decoder.string.optionally (.error .malformed) (lookup? "mediaType" members) =
    .ok record.mediaType
  logs : (Decoder.list LogRecord.decoder).optionally (.ok []) (lookup? "tlogs" members) =
    .ok record.logs
  certificateAuthorities : (Decoder.list AuthorityRecord.decoder).optionally (.ok [])
    (lookup? "certificateAuthorities" members) = .ok record.certificateAuthorities
  ctLogs : (Decoder.list LogRecord.decoder).optionally (.ok []) (lookup? "ctlogs" members) =
    .ok record.ctLogs
  timestampingAuthorities : (Decoder.list AuthorityRecord.decoder).optionally (.ok [])
    (lookup? "timestampAuthorities" members) = .ok record.timestampingAuthorities

theorem fields_eq_ok_iff (distinct : (members.map Prod.fst).Nodup) {record : RootRecord} :
    fields (toMembers members) = .ok record ↔ record.IsReadFrom members := by
  simp only [fields, Fields.seq_eq_ok_iff, Fields.map_eq_ok_iff, Fields.optional, Fields.required,
    Fields.member_eq_ok_iff distinct]
  constructor
  · rintro ⟨_, stampers, ⟨_, ctLogs, ⟨_, authorities, ⟨_, logs, ⟨mediaType, mediaType_read, rfl⟩,
      logs_read, rfl⟩, authorities_read, rfl⟩, ctLogs_read, rfl⟩, stampers_read, rfl⟩
    exact ⟨mediaType_read, logs_read, authorities_read, ctLogs_read, stampers_read⟩
  · rintro ⟨mediaType, logs, authorities, ctLogs, stampers⟩
    exact ⟨_, _, ⟨_, _, ⟨_, _, ⟨_, _, ⟨_, mediaType, rfl⟩, logs, rfl⟩, authorities, rfl⟩, ctLogs,
      rfl⟩, stampers, rfl⟩

/-- The members that are written for a trust root. -/
def written (record : RootRecord) : List (String × Value) :=
  ofSlots [
    .always "mediaType" (.string record.mediaType),
    .always "tlogs" (.list LogRecord.toDocument record.logs),
    .always "certificateAuthorities"
      (.list AuthorityRecord.toDocument record.certificateAuthorities),
    .always "ctlogs" (.list LogRecord.toDocument record.ctLogs),
    .always "timestampAuthorities"
      (.list AuthorityRecord.toDocument record.timestampingAuthorities)]

@[simp]
theorem ofDocument_toDocument (record : RootRecord) :
    ofDocument record.toDocument = .object record.written :=
  ofDocument_record _

theorem isSorted_written (record : RootRecord) : IsSorted record.written :=
  isSorted_ofSlots _

theorem lookup?_written (name : String) (record : RootRecord) :
    lookup? name record.written =
      if "mediaType" = name then some (.string record.mediaType)
      else if "tlogs" = name then some (logsWritten record.logs)
      else if "certificateAuthorities" = name then
        some (authoritiesWritten record.certificateAuthorities)
      else if "ctlogs" = name then some (logsWritten record.ctLogs)
      else if "timestampAuthorities" = name then
        some (authoritiesWritten record.timestampingAuthorities)
      else none := by
  rw [written, lookup?_ofSlots]
  split_ifs <;> try subst name <;> simp [ofDocument]
  all_goals simp_all

theorem isWellFormed_written (depth : Nat) (record : RootRecord) :
    (Value.object record.written).IsWellFormed accepts (depth + 6) := by
  have logs_formed (logs : List LogRecord) :
      (ofDocument (.list LogRecord.toDocument logs)).IsWellFormed accepts (depth + 5) := by
    rw [ofDocument_logs]
    exact isWellFormed_map (fun log => log.isWellFormed_written (depth + 1)) logs
  have authorities_formed (authorities : List AuthorityRecord) :
      (ofDocument (.list AuthorityRecord.toDocument authorities)).IsWellFormed accepts
        (depth + 5) := by
    rw [ofDocument_authorities]
    exact isWellFormed_map (fun authority => authority.isWellFormed_written depth) authorities
  apply isWellFormed_ofSlots
  simp only [List.forall_mem_cons]
  exact ⟨Slot.isWellFormed_always (isWellFormed_text _),
    Slot.isWellFormed_always (logs_formed _), Slot.isWellFormed_always (authorities_formed _),
    Slot.isWellFormed_always (logs_formed _), Slot.isWellFormed_always (authorities_formed _),
    nofun⟩

end RootRecord
end Countersign
