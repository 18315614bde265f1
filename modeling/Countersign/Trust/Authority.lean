import Countersign.Trust.Chain

/-!
# Authorities

Certificate authorities issue the certificates that sign artifacts, and timestamping authorities
vouch for times.  Both are known by the digest of the first certificate of their chain.  The chain
of a certificate authority begins with its own certificate, that of a timestamping authority with
the certificate that signs timestamps.
-/

namespace Countersign

/-- What all authorities have. -/
structure Authority where
  /-- The chain of certificates. -/
  chain : CertificateChain
  /-- The period in which the authority is trusted. -/
  validity : ValidityPeriod
  /-- The address of the authority. -/
  uri? : Option String := none
  /-- The subject of the authority. -/
  subject? : Option AuthoritySubject := none
  deriving DecidableEq

namespace Authority

/-- The identifier of an authority. -/
def id (authority : Authority) : String :=
  authority.chain.id

/-- The root certificate. -/
def root (authority : Authority) : DecodedCertificate :=
  authority.chain.root

/-- Whether the authority is trusted at an instant. -/
def isValidAt (authority : Authority) (time : Instant) : Bool :=
  authority.validity.contains time

/-- The verifier of the signatures made with the first certificate. -/
def verifier (authority : Authority) : Except TrustError Verifier :=
  authority.chain.verifier authority.validity

/-- The authority that a document gives. -/
def ofRecord (record : AuthorityRecord) : Except TrustError Authority := do
  let chain ← CertificateChain.ofDers record.chain
  let validity ← ValidityPeriod.ofRecord record.period?
  return {
    chain, validity
    uri? := if record.uri.isEmpty then none else some record.uri
    subject? := record.subject? }

/-- How an authority is written. -/
def toRecord (authority : Authority) : AuthorityRecord where
  subject? := authority.subject?
  uri := authority.uri?.getD ""
  chain := authority.chain.ders
  period? := authority.validity.toRecord

end Authority

/-- An authority that issues certificates. -/
structure CertificateAuthority extends Authority
  deriving DecidableEq

namespace CertificateAuthority

/-- The certificates before the root. -/
def intermediates (authority : CertificateAuthority) : List DecodedCertificate :=
  authority.chain.certificates.dropLast

end CertificateAuthority

/-- An authority that signs timestamps. -/
structure TimestampingAuthority extends Authority
  deriving DecidableEq

namespace TimestampingAuthority

/-- The certificate that signs timestamps. -/
def leaf (authority : TimestampingAuthority) : DecodedCertificate :=
  authority.chain.first

/-- The certificates between the leaf and the root. -/
def intermediates (authority : TimestampingAuthority) : List DecodedCertificate :=
  authority.chain.rest.dropLast

end TimestampingAuthority
end Countersign
