import Countersign.Bundle.LoggedEntry

/-!
# Verification material

Everything a verifier needs besides the signature: the certificate or key that made it, the log
entries that witness it, and timestamps.  The member that names the certificate or key stands
directly among the others, so all members of the material are kept before one of them is chosen.
-/

namespace Countersign

open Json

/-- The certificate or key behind a signature. -/
inductive Signer where
  /-- One certificate. -/
  | certificate (der : Bytes)
  /-- A chain of certificates, the signing one first. -/
  | chain (certificates : List Bytes)
  /-- A key known from elsewhere, with a hint for finding it. -/
  | publicKey (hint : String)
  deriving DecidableEq, Repr

namespace Signer

/-- Decodes one certificate. -/
def certificateDecoder : Decoder Bytes :=
  Decoder.record ["rawBytes"] (Fields.required "rawBytes" Blob.decoder)

/-- The document of one certificate. -/
def certificateDocument (der : Bytes) : Document :=
  .record [.always "rawBytes" (Blob.toDocument der)]

/-- Decodes a chain of certificates. -/
def chainDecoder : Decoder (List Bytes) :=
  Decoder.record ["certificates"]
    (Fields.required "certificates" (Decoder.list certificateDecoder))

/-- Decodes the hint of a key. -/
def hintDecoder : Decoder String :=
  Decoder.record ["hint"] (Fields.optional "hint" "" Decoder.string)

/-- The member name of each kind with its decoder. -/
def alternative? : String → Option (Decoder Signer)
  | "certificate" => some fun document => (certificateDecoder document).map certificate
  | "x509CertificateChain" => some fun document => (chainDecoder document).map chain
  | "publicKey" => some fun document => (hintDecoder document).map publicKey
  | _ => none

/-- Decodes a signer that stands by itself. -/
def decoder : Decoder Signer :=
  Decoder.variant alternative?

/-- The member that holds a signer. -/
def toMember : Signer → String × Document
  | certificate der => ("certificate", certificateDocument der)
  | chain certificates =>
    ("x509CertificateChain",
      .record [.always "certificates" (.list certificateDocument certificates)])
  | publicKey hint => ("publicKey", .record [.always "hint" (.string hint)])

/-- The document of a signer that stands by itself. -/
def toDocument (signer : Signer) : Document :=
  .object [signer.toMember]

/-- The certificate that made the signature, if there is one. -/
def signingCertificate? : Signer → Option Bytes
  | certificate der => some der
  | chain certificates => certificates.head?
  | publicKey _ => none

/-- Reads the signer from among other members: the first member that names a kind decides. -/
def fields : Fields Signer := fun members =>
  match members.findSome? fun (name, document) =>
      (alternative? name).map fun decode => decode document with
  | some result => Fields.at members.length result
  | none => .error (members.length, .malformed)

end Signer

/-- Timestamp tokens. -/
structure TimestampData where
  /-- The DER encodings of the tokens. -/
  tokens : List Bytes := []
  deriving DecidableEq, Repr

namespace TimestampData

/-- Decodes one token. -/
def tokenDecoder : Decoder Bytes :=
  Decoder.record ["signedTimestamp"] (Fields.required "signedTimestamp" Blob.decoder)

/-- The document of one token. -/
def tokenDocument (token : Bytes) : Document :=
  .record [.always "signedTimestamp" (Blob.toDocument token)]

/-- Decodes timestamps. -/
def decoder : Decoder TimestampData :=
  Decoder.record ["rfc3161Timestamps"]
    (mk <$> Fields.optional "rfc3161Timestamps" [] (Decoder.list tokenDecoder))

/-- The document of timestamps. -/
def toDocument (data : TimestampData) : Document :=
  .record [.unlessEmpty data.tokens.isEmpty "rfc3161Timestamps" (.list tokenDocument data.tokens)]

end TimestampData

/-- Everything a verifier needs besides the signature. -/
structure Material where
  /-- The certificate or key behind the signature. -/
  signer : Signer
  /-- Log entries in the order in which they were added. -/
  entries : List LoggedEntry
  /-- Timestamps. -/
  timestamps : TimestampData
  deriving DecidableEq

namespace Material

/-- The members that are decoded where they stand. -/
def ownNames : List String :=
  ["tlogEntries", "timestampVerificationData"]

/-- Reads material whose members may nest `depth` levels deep. -/
def fields (depth : Nat) : Fields Material :=
  (fun entries timestamps _ signer => mk signer entries timestamps)
    <$> Fields.optional "tlogEntries" [] (Decoder.orDefault [] (Decoder.list LoggedEntry.decoder))
    <*> Fields.optional "timestampVerificationData" {} (Decoder.orDefault {} TimestampData.decoder)
    <*> Fields.others ownNames (fun member => member.2.isKept depth)
    <*> Signer.fields

/-- Decodes material that stands `outer` levels deep in its document; it has to be an object. -/
def decoder (outer : Nat) : Decoder Material
  | .object members => Fields.result (fields (Document.maxDepth - outer - 1) members)
  | _ => .error .malformed

/-- The document of material. -/
def toDocument (material : Material) : Document :=
  .record [
    some material.signer.toMember,
    .always "tlogEntries" (.list LoggedEntry.toDocument material.entries),
    .always "timestampVerificationData" material.timestamps.toDocument]

end Material
end Countersign
