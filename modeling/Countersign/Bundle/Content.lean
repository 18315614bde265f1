import Countersign.Bundle.Envelope
import Countersign.Digest.Algorithm

/-!
# What a bundle signs

A bundle carries either a detached signature over a message, with or without the digest of that
message, or a signed envelope.
-/

namespace Countersign

open Json

/-- The digest of a message with its algorithm. -/
structure MessageDigest where
  /-- The hash function. -/
  algorithm : HashAlgorithm
  /-- The digest bytes, of any length. -/
  digest : Bytes
  deriving DecidableEq, Repr

namespace MessageDigest

/-- The digest as `algorithm:hexadecimal`. -/
def prefixedHex (digest : MessageDigest) : String :=
  digest.algorithm.entryName ++ ":" ++ Hex.encode digest.digest

/-- Decodes a digest. -/
def decoder : Decoder MessageDigest :=
  Decoder.record ["algorithm", "digest"]
    (mk <$> Fields.required "algorithm" HashAlgorithm.decoder
      <*> Fields.required "digest" Blob.decoder)

/-- The document of a digest. -/
def toDocument (digest : MessageDigest) : Document :=
  .record [
    .always "algorithm" digest.algorithm.toDocument,
    .always "digest" (Blob.toDocument digest.digest)]

end MessageDigest

/-- A detached signature. -/
structure MessageSignature where
  /-- The digest of the signed message. -/
  digest? : Option MessageDigest
  /-- The signature bytes. -/
  signature : Bytes
  deriving DecidableEq, Repr

namespace MessageSignature

/-- Decodes a signature. -/
def decoder : Decoder MessageSignature :=
  Decoder.record ["messageDigest", "signature"]
    (mk <$> Fields.nullable "messageDigest" MessageDigest.decoder
      <*> Fields.required "signature" Blob.decoder)

/-- The document of a signature. -/
def toDocument (signature : MessageSignature) : Document :=
  .record [
    .of? "messageDigest" signature.digest? MessageDigest.toDocument,
    .always "signature" (Blob.toDocument signature.signature)]

end MessageSignature

/-- What a bundle signs. -/
inductive SignatureContent where
  | message (signature : MessageSignature)
  | envelope (envelope : Envelope)
  deriving DecidableEq, Repr

namespace SignatureContent

/-- The member name of each kind with its decoder. -/
def alternative? : String → Option (Decoder SignatureContent)
  | "messageSignature" =>
    some fun document => (MessageSignature.decoder document).map SignatureContent.message
  | "dsseEnvelope" => some fun document => (Envelope.decoder document).map SignatureContent.envelope
  | _ => none

/-- Decodes a content that stands by itself. -/
def decoder : Decoder SignatureContent :=
  Decoder.variant alternative?

/-- The member that holds a content. -/
def toMember : SignatureContent → String × Document
  | .message signature => ("messageSignature", signature.toDocument)
  | .envelope signed => ("dsseEnvelope", signed.toDocument)

/-- The document of a content that stands by itself. -/
def toDocument (content : SignatureContent) : Document :=
  .object [content.toMember]

end SignatureContent
end Countersign
