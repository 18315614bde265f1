import Countersign.Certificate.Basic
import Countersign.Trust.Verifier

/-!
# Certificate chains

A chain runs from the certificate that is used to the root; each certificate is issued by the next
one.  Chains are not empty, and every certificate of a chain has been decoded.
-/

namespace Countersign

/-- A certificate with its encoding. -/
structure DecodedCertificate where
  /-- The encoding. -/
  der : Bytes
  /-- The certificate. -/
  certificate : Certificate
  /-- The encoding is that of the certificate. -/
  decodes : Certificate.ofDer der = .ok certificate
  deriving DecidableEq

namespace DecodedCertificate

/-- Decodes a certificate. -/
def ofDer (der : Bytes) : Except TrustError DecodedCertificate :=
  match decoded : Certificate.ofDer der with
  | .ok certificate => .ok ⟨der, certificate, decoded⟩
  | .error error => .error (.certificate error)

/-- Whether a certificate names the owner of another one as its issuer. -/
def isIssuedBy (certificate next : DecodedCertificate) : Bool :=
  certificate.certificate.issuer = next.certificate.subject

/-- The owner's name as text. -/
def subjectText (certificate : DecodedCertificate) : String :=
  certificate.certificate.subjectText

end DecodedCertificate

/-- The first certificate that is not issued by the one that follows it, with that one. -/
def brokenLink? :
    DecodedCertificate → List DecodedCertificate → Option (DecodedCertificate × DecodedCertificate)
  | _, [] => none
  | certificate, next :: rest =>
    if certificate.isIssuedBy next then brokenLink? next rest else some (certificate, next)

/-- A chain of certificates. -/
structure CertificateChain where
  /-- The certificate that is used. -/
  first : DecodedCertificate
  /-- The certificates that follow, ending with the root. -/
  rest : List DecodedCertificate
  /-- Each certificate is issued by the next one. -/
  linked : brokenLink? first rest = none
  deriving DecidableEq

namespace CertificateChain

/-- The chain of decoded certificates. -/
def ofCertificates : List DecodedCertificate → Except TrustError CertificateChain
  | [] => .error (.malformed .emptyChain)
  | first :: rest =>
    match linked : brokenLink? first rest with
    | none => .ok ⟨first, rest, linked⟩
    | some (certificate, next) =>
      .error (.malformed (.brokenChain certificate.subjectText next.subjectText))

/-- Decodes a chain; every certificate is decoded before the links are judged. -/
def ofDers (ders : List Bytes) : Except TrustError CertificateChain :=
  (ders.mapM DecodedCertificate.ofDer).bind ofCertificates

/-- All certificates in order. -/
def certificates (chain : CertificateChain) : List DecodedCertificate :=
  chain.first :: chain.rest

/-- The encodings in order. -/
def ders (chain : CertificateChain) : List Bytes :=
  chain.certificates.map (·.der)

/-- The last certificate. -/
def root (chain : CertificateChain) : DecodedCertificate :=
  chain.rest.getLastD chain.first

/-- The identifier of a chain: the digest of its first certificate in hexadecimal. -/
def id (chain : CertificateChain) : String :=
  Hex.encode (sha256 chain.first.der)

/-- The verifier of the first certificate's signatures; its scheme is the usual one of its key. -/
def verifier (chain : CertificateChain) (validity : ValidityPeriod) : Except TrustError Verifier :=
  match KeyInfo.ofDer chain.first.certificate.publicKeyDer with
  | .ok info => .ok ⟨⟨info.raw, info.defaultScheme⟩, validity⟩
  | .error error => .error (.algorithm (.certificateKey error))

end CertificateChain
end Countersign
