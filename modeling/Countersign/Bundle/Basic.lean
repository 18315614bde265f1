import Countersign.Bundle.Content
import Countersign.Bundle.Material

/-!
# Bundles

A bundle is what signing produces and verification consumes: a signature together with the
material to verify it.  A bundle that has not been signed has no content, and one never holds both
kinds of signature.
-/

namespace Countersign

open Json

/-- The versions of the bundle format. -/
inductive BundleVersion where
  | v0_1
  | v0_2
  | v0_3
  deriving DecidableEq, Repr

namespace BundleVersion

/-- The media type that names a version. -/
def mediaType : BundleVersion → String
  | v0_1 => "application/vnd.dev.sigstore.bundle+json;version=0.1"
  | v0_2 => "application/vnd.dev.sigstore.bundle+json;version=0.2"
  | v0_3 => "application/vnd.dev.sigstore.bundle.v0.3+json"

/-- The version that a media type names; the last version has two names. -/
def ofMediaType (text : String) : Except FormatError BundleVersion :=
  if text = mediaType v0_1 then .ok v0_1
  else if text = mediaType v0_2 then .ok v0_2
  else if text = mediaType v0_3 ∨ text = "application/vnd.dev.sigstore.bundle+json;version=0.3" then
    .ok v0_3
  else .error (.mediaType text)

end BundleVersion

/-- A signature with the material to verify it. -/
structure Bundle where
  /-- The media type, of a known version or not. -/
  mediaType : String
  /-- The material. -/
  material : Material
  /-- The signature; nothing in a bundle that has not been signed. -/
  content? : Option SignatureContent
  deriving DecidableEq

namespace Bundle

/-- A new bundle of the latest version without log entries and timestamps. -/
def new (signer : Signer) (content : SignatureContent) : Bundle :=
  ⟨BundleVersion.v0_3.mediaType, ⟨signer, [], {}⟩, some content⟩

/-- The member names in order. -/
def memberNames : List String :=
  ["mediaType", "verificationMaterial", "messageSignature", "dsseEnvelope"]

/-- The content of a bundle from the two members that may hold it. -/
def contentOf :
    Option MessageSignature → Option Envelope → Except DecodeError (Option SignatureContent)
  | some _, some _ => .error (.refused "bundle carries both messageSignature and dsseEnvelope")
  | some signature, none => .ok (some (.message signature))
  | none, some envelope => .ok (some (.envelope envelope))
  | none, none => .ok none

/-- Decodes a bundle; without a media type it is of the first version. -/
def decoder : Decoder Bundle :=
  Decoder.andThen
    (Decoder.record memberNames
      (Prod.mk
        <$> (Prod.mk
          <$> Fields.optional "mediaType" BundleVersion.v0_1.mediaType Decoder.string
          <*> Fields.required "verificationMaterial" (Material.decoder 1))
        <*> (Prod.mk
          <$> Fields.nullable "messageSignature" MessageSignature.decoder
          <*> Fields.nullable "dsseEnvelope" Envelope.decoder)))
    fun ((mediaType, material), (signature?, envelope?)) =>
      (contentOf signature? envelope?).map (mk mediaType material)

/-- The document of a bundle. -/
def toDocument (bundle : Bundle) : Document :=
  .record [
    .always "mediaType" (.string bundle.mediaType),
    .always "verificationMaterial" bundle.material.toDocument,
    bundle.content?.map SignatureContent.toMember]

/-- Reads a bundle from a JSON text. -/
def ofJson (text : String) : Except FormatError Bundle :=
  ((Text.read text).decode decoder).mapError .json

/-- The compact JSON text of a bundle. -/
def toJson (bundle : Bundle) : String :=
  bundle.toDocument.compact

/-- The indented JSON text of a bundle. -/
def toIndentedJson (bundle : Bundle) : String :=
  bundle.toDocument.indented

/-- The version that the media type names. -/
def version (bundle : Bundle) : Except FormatError BundleVersion :=
  BundleVersion.ofMediaType bundle.mediaType

/-- The detached signature, if the bundle carries one. -/
def messageSignature? (bundle : Bundle) : Option MessageSignature :=
  match bundle.content? with
  | some (.message signature) => some signature
  | _ => none

/-- The envelope, if the bundle carries one. -/
def envelope? (bundle : Bundle) : Option Envelope :=
  match bundle.content? with
  | some (.envelope envelope) => some envelope
  | _ => none

/-- The certificate that made the signature, if there is one. -/
def signingCertificate? (bundle : Bundle) : Option Bytes :=
  bundle.material.signer.signingCertificate?

/-- The bundle with one more log entry, after the earlier ones. -/
def addEntry (bundle : Bundle) (entry : LoggedEntry) : Bundle :=
  { bundle with
    material := { bundle.material with entries := bundle.material.entries ++ [entry] } }

end Bundle
end Countersign
