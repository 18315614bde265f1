import Countersign.Format.Blob

/-!
# SHA-256 digests in documents

A digest has exactly 32 bytes, which its type carries.  Documents hold it in base64; logs answer in
hexadecimal.
-/

namespace Countersign

/-- A SHA-256 digest. -/
structure Sha256Digest where
  /-- The bytes of the digest. -/
  bytes : Bytes
  /-- There are 32 of them. -/
  length_eq : bytes.length = 32
  deriving DecidableEq

namespace Sha256Digest

/-- A digest from its bytes. -/
def ofBytes (bytes : Bytes) : Except EncodingFault Sha256Digest :=
  if h : bytes.length = 32 then .ok ⟨bytes, h⟩ else .error (.digestLength bytes.length)

/-- A digest from a hexadecimal text. -/
def ofHex (text : String) : Except EncodingFault Sha256Digest :=
  match Hex.decode text with
  | .ok bytes => ofBytes bytes
  | .error fault => .error (.hex fault)

/-- A digest from a base64 text. -/
def ofBase64 (text : String) : Except EncodingFault Sha256Digest :=
  (Blob.ofBase64 text).bind ofBytes

/-- The lowercase hexadecimal text of a digest. -/
def toHex (digest : Sha256Digest) : String :=
  Hex.encode digest.bytes

/-- The base64 text of a digest. -/
def toBase64 (digest : Sha256Digest) : String :=
  Base64.encode digest.bytes

/-- Decodes a digest; a wrong length is refused by name. -/
def decoder : Json.Decoder Sha256Digest :=
  Json.Decoder.andThen Json.Decoder.string fun text =>
    match ofBase64 text with
    | .ok digest => .ok digest
    | .error (.digestLength length) => .error (.refused (EncodingFault.digestLength length).message)
    | .error _ => .error .malformed

/-- The document of a digest. -/
def toDocument (digest : Sha256Digest) : Json.Document :=
  .string digest.toBase64

end Sha256Digest
end Countersign
