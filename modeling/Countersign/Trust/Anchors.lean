import Countersign.Trust.Authority
import Countersign.Trust.EntryTable
import Countersign.Trust.Log

/-!
# Trust anchors

The authorities and logs that are trusted.  Within a category every entry has an identifier of its
own, so a lookup finds at most one entry; across the categories an identifier is looked up in a
fixed order.
-/

namespace Countersign

/-- The versions of the trust root format. -/
inductive RootVersion where
  | v0_1
  | v0_2
  deriving DecidableEq, Repr

namespace RootVersion

/-- The media type that names a version. -/
def mediaType : RootVersion → String
  | v0_1 => "application/vnd.dev.sigstore.trustedroot+json;version=0.1"
  | v0_2 => "application/vnd.dev.sigstore.trustedroot.v0.2+json"

/-- The version that a media type names. -/
def ofMediaType (text : String) : Except TrustError RootVersion :=
  if text = mediaType v0_1 then .ok v0_1
  else if text = mediaType v0_2 then .ok v0_2
  else .error (.mediaType text)

end RootVersion

/-- The authorities and logs that are trusted. -/
structure TrustAnchors where
  /-- The version of the format. -/
  version : RootVersion
  /-- The authorities that issue certificates. -/
  certificateAuthorityTable : EntryTable fun authority : CertificateAuthority => authority.id
  /-- The logs of issued certificates. -/
  ctLogTable : EntryTable TransparencyLog.id
  /-- The authorities that sign timestamps. -/
  timestampingAuthorityTable : EntryTable fun authority : TimestampingAuthority => authority.id
  /-- The logs of signatures. -/
  logTable : EntryTable TransparencyLog.id
  deriving DecidableEq

namespace TrustAnchors

/-- The authorities that issue certificates. -/
def certificateAuthorities (anchors : TrustAnchors) : List CertificateAuthority :=
  anchors.certificateAuthorityTable.entries

/-- The logs of issued certificates. -/
def ctLogs (anchors : TrustAnchors) : List TransparencyLog :=
  anchors.ctLogTable.entries

/-- The authorities that sign timestamps. -/
def timestampingAuthorities (anchors : TrustAnchors) : List TimestampingAuthority :=
  anchors.timestampingAuthorityTable.entries

/-- The logs of signatures. -/
def logs (anchors : TrustAnchors) : List TransparencyLog :=
  anchors.logTable.entries

/-- The table of a category, in which no identifier may stand for two entries. -/
def tableOf {α : Type} (category : EntryCategory) (id : α → String) (entries : List α) :
    Except TrustError (EntryTable id) :=
  (EntryTable.ofEntries id entries).mapError (.duplicate category)

/-- Trust anchors from their parts. -/
def ofParts (mediaType : String) (certificateAuthorities : List CertificateAuthority)
    (ctLogs : List TransparencyLog) (timestampingAuthorities : List TimestampingAuthority)
    (logs : List TransparencyLog) : Except TrustError TrustAnchors := do
  let version ← RootVersion.ofMediaType mediaType
  let certificateAuthorityTable ← tableOf .certificateAuthority _ certificateAuthorities
  let ctLogTable ← tableOf .ctLog _ ctLogs
  let timestampingAuthorityTable ← tableOf .timestampingAuthority _ timestampingAuthorities
  let logTable ← tableOf .transparencyLog _ logs
  return ⟨version, certificateAuthorityTable, ctLogTable, timestampingAuthorityTable, logTable⟩

/-- The trust anchors that a document gives.  The media type is judged before all entries, and every
entry before the identifiers. -/
def ofRecord (record : RootRecord) : Except TrustError TrustAnchors := do
  let _ ← RootVersion.ofMediaType record.mediaType
  let certificateAuthorities ← record.certificateAuthorities.mapM Authority.ofRecord
  let ctLogs ← record.ctLogs.mapM TransparencyLog.ofRecord
  let timestampingAuthorities ← record.timestampingAuthorities.mapM Authority.ofRecord
  let logs ← record.logs.mapM TransparencyLog.ofRecord
  ofParts record.mediaType (certificateAuthorities.map CertificateAuthority.mk) ctLogs
    (timestampingAuthorities.map TimestampingAuthority.mk) logs

/-- How trust anchors are written. -/
def toRecord (anchors : TrustAnchors) : RootRecord where
  mediaType := anchors.version.mediaType
  logs := anchors.logs.map TransparencyLog.toRecord
  certificateAuthorities := anchors.certificateAuthorities.map (·.toRecord)
  ctLogs := anchors.ctLogs.map TransparencyLog.toRecord
  timestampingAuthorities := anchors.timestampingAuthorities.map (·.toRecord)

/-- The log of signatures with an identifier. -/
def log? (anchors : TrustAnchors) (id : String) : Option TransparencyLog :=
  anchors.logTable.find? id

/-- The log of certificates with an identifier. -/
def ctLog? (anchors : TrustAnchors) (id : String) : Option TransparencyLog :=
  anchors.ctLogTable.find? id

/-- The certificate authority with an identifier. -/
def certificateAuthority? (anchors : TrustAnchors) (id : String) : Option CertificateAuthority :=
  anchors.certificateAuthorityTable.find? id

/-- The timestamping authority with an identifier. -/
def timestampingAuthority? (anchors : TrustAnchors) (id : String) : Option TimestampingAuthority :=
  anchors.timestampingAuthorityTable.find? id

/-- The verifier of the entry with an identifier.  Logs of signatures come first, then logs of
certificates, certificate authorities and timestamping authorities; the first entry found decides.
-/
def verifier (anchors : TrustAnchors) (id : String) : Except TrustError Verifier :=
  match anchors.log? id with
  | some log => log.verifier
  | none =>
    match anchors.ctLog? id with
    | some log => log.verifier
    | none =>
      match anchors.certificateAuthority? id with
      | some authority => authority.verifier
      | none =>
        match anchors.timestampingAuthority? id with
        | some authority => authority.verifier
        | none => .error (.keyNotFound id)

end TrustAnchors
end Countersign
