import Countersign.Format.Blob

/-!
# Trust root documents

The members of a trust root document, decoded but not judged: times, names and media types are still
text, and keys and chains may be empty.
-/

namespace Countersign

open Json

/-- A period as it is written. -/
structure PeriodRecord where
  /-- The first instant. -/
  start? : Option String
  /-- The last instant. -/
  finish? : Option String
  deriving DecidableEq, Repr

namespace PeriodRecord

/-- Decodes a period. -/
def decoder : Decoder PeriodRecord :=
  Decoder.record ["start", "end"]
    (mk <$> Fields.nullable "start" Decoder.string <*> Fields.nullable "end" Decoder.string)

/-- The document of a period. -/
def toDocument (record : PeriodRecord) : Document :=
  .record [.of? "start" record.start? .string, .of? "end" record.finish? .string]

end PeriodRecord

/-- The key of a log as it is written. -/
structure KeyRecord where
  /-- The encoding of the public key. -/
  publicKey? : Option Bytes
  /-- The name of the declared algorithm; empty when there is none. -/
  details : String
  /-- The period of validity. -/
  period? : Option PeriodRecord
  deriving DecidableEq, Repr

namespace KeyRecord

/-- Decodes a key. -/
def decoder : Decoder KeyRecord :=
  Decoder.record ["rawBytes", "keyDetails", "validFor"]
    (mk <$> Fields.nullable "rawBytes" Blob.decoder
      <*> Fields.optional "keyDetails" "" Decoder.string
      <*> Fields.nullable "validFor" PeriodRecord.decoder)

/-- The document of a key. -/
def toDocument (record : KeyRecord) : Document :=
  .record [
    .of? "rawBytes" record.publicKey? Blob.toDocument,
    .unlessEmpty record.details.isEmpty "keyDetails" (.string record.details),
    .of? "validFor" record.period? PeriodRecord.toDocument]

end KeyRecord

/-- A log as it is written. -/
structure LogRecord where
  /-- The address of the log; empty when there is none. -/
  baseUrl : String
  /-- The name of the hash function of the tree. -/
  hashName? : Option String
  /-- The key. -/
  key : KeyRecord
  /-- The declared identifier. -/
  declaredId? : Option Bytes
  deriving DecidableEq, Repr

namespace LogRecord

/-- Decodes an identifier. -/
def idDecoder : Decoder Bytes :=
  Decoder.record ["keyId"] (Fields.required "keyId" Blob.decoder)

/-- The document of an identifier. -/
def idDocument (keyId : Bytes) : Document :=
  .record [.always "keyId" (Blob.toDocument keyId)]

/-- Decodes a log. -/
def decoder : Decoder LogRecord :=
  Decoder.record ["baseUrl", "hashAlgorithm", "publicKey", "logId"]
    (mk <$> Fields.optional "baseUrl" "" Decoder.string
      <*> Fields.nullable "hashAlgorithm" Decoder.string
      <*> Fields.required "publicKey" KeyRecord.decoder
      <*> Fields.nullable "logId" idDecoder)

/-- The document of a log. -/
def toDocument (record : LogRecord) : Document :=
  .record [
    .unlessEmpty record.baseUrl.isEmpty "baseUrl" (.string record.baseUrl),
    .of? "hashAlgorithm" record.hashName? .string,
    .always "publicKey" record.key.toDocument,
    .of? "logId" record.declaredId? idDocument]

end LogRecord

/-- The subject of an authority. -/
structure AuthoritySubject where
  /-- The organization; empty when there is none. -/
  organization : String
  /-- The common name; empty when there is none. -/
  commonName : String
  deriving DecidableEq, Repr

namespace AuthoritySubject

/-- Decodes a subject. -/
def decoder : Decoder AuthoritySubject :=
  Decoder.record ["organization", "commonName"]
    (mk <$> Fields.optional "organization" "" Decoder.string
      <*> Fields.optional "commonName" "" Decoder.string)

/-- The document of a subject. -/
def toDocument (subject : AuthoritySubject) : Document :=
  .record [
    .unlessEmpty subject.organization.isEmpty "organization" (.string subject.organization),
    .unlessEmpty subject.commonName.isEmpty "commonName" (.string subject.commonName)]

end AuthoritySubject

/-- An authority as it is written. -/
structure AuthorityRecord where
  /-- The subject. -/
  subject? : Option AuthoritySubject
  /-- The address of the authority; empty when there is none. -/
  uri : String
  /-- The encodings of the certificates. -/
  chain : List Bytes
  /-- The period of validity. -/
  period? : Option PeriodRecord
  deriving DecidableEq, Repr

namespace AuthorityRecord

/-- Decodes a certificate of a chain. -/
def certificateDecoder : Decoder Bytes :=
  Decoder.record ["rawBytes"] (Fields.required "rawBytes" Blob.decoder)

/-- The document of a certificate of a chain. -/
def certificateDocument (der : Bytes) : Document :=
  .record [.always "rawBytes" (Blob.toDocument der)]

/-- Decodes a chain. -/
def chainDecoder : Decoder (List Bytes) :=
  Decoder.record ["certificates"]
    (Fields.optional "certificates" [] (Decoder.list certificateDecoder))

/-- The document of a chain. -/
def chainDocument (chain : List Bytes) : Document :=
  .record [.always "certificates" (.list certificateDocument chain)]

/-- Decodes an authority. -/
def decoder : Decoder AuthorityRecord :=
  Decoder.record ["subject", "uri", "certChain", "validFor"]
    (mk <$> Fields.nullable "subject" AuthoritySubject.decoder
      <*> Fields.optional "uri" "" Decoder.string
      <*> Fields.required "certChain" chainDecoder
      <*> Fields.nullable "validFor" PeriodRecord.decoder)

/-- The document of an authority. -/
def toDocument (record : AuthorityRecord) : Document :=
  .record [
    .of? "subject" record.subject? AuthoritySubject.toDocument,
    .unlessEmpty record.uri.isEmpty "uri" (.string record.uri),
    .always "certChain" (chainDocument record.chain),
    .of? "validFor" record.period? PeriodRecord.toDocument]

end AuthorityRecord

/-- A trust root as it is written. -/
structure RootRecord where
  /-- The media type. -/
  mediaType : String
  /-- The transparency logs. -/
  logs : List LogRecord
  /-- The certificate authorities. -/
  certificateAuthorities : List AuthorityRecord
  /-- The certificate transparency logs. -/
  ctLogs : List LogRecord
  /-- The timestamping authorities. -/
  timestampingAuthorities : List AuthorityRecord
  deriving DecidableEq, Repr

namespace RootRecord

/-- The member names in order. -/
def memberNames : List String :=
  ["mediaType", "tlogs", "certificateAuthorities", "ctlogs", "timestampAuthorities"]

/-- Decodes a trust root. -/
def decoder : Decoder RootRecord :=
  Decoder.record memberNames
    (mk <$> Fields.required "mediaType" Decoder.string
      <*> Fields.optional "tlogs" [] (Decoder.list LogRecord.decoder)
      <*> Fields.optional "certificateAuthorities" [] (Decoder.list AuthorityRecord.decoder)
      <*> Fields.optional "ctlogs" [] (Decoder.list LogRecord.decoder)
      <*> Fields.optional "timestampAuthorities" [] (Decoder.list AuthorityRecord.decoder))

/-- The document of a trust root. -/
def toDocument (record : RootRecord) : Document :=
  .record [
    .always "mediaType" (.string record.mediaType),
    .always "tlogs" (.list LogRecord.toDocument record.logs),
    .always "certificateAuthorities"
      (.list AuthorityRecord.toDocument record.certificateAuthorities),
    .always "ctlogs" (.list LogRecord.toDocument record.ctLogs),
    .always "timestampAuthorities"
      (.list AuthorityRecord.toDocument record.timestampingAuthorities)]

end RootRecord
end Countersign
