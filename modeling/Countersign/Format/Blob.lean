import Countersign.Format.Error
import Countersign.Json.Encode
import Countersign.Text.Base64

/-!
# Bytes in documents

Certificates, keys, signatures and tokens stand in documents as base64 strings.
-/

namespace Countersign
namespace Blob

/-- The bytes of a base64 text. -/
def ofBase64 (text : String) : Except EncodingFault Bytes :=
  match Base64.decode text with
  | some bytes => .ok bytes
  | none => .error .base64

/-- Decodes bytes from a base64 string. -/
def decoder : Json.Decoder Bytes :=
  Json.Decoder.stringVia Base64.decode

/-- The document of bytes. -/
def toDocument (bytes : Bytes) : Json.Document :=
  .string (Base64.encode bytes)

end Blob
end Countersign
