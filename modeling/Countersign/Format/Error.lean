import Countersign.Json.Decode
import Countersign.Text.Hex

/-!
# Faults of the data formats

What can be wrong with an encoded byte string, a media type, a hash name or a JSON document, and how
each fault is worded.
-/

namespace Countersign

/-- Why a text is no encoding of the expected bytes. -/
inductive EncodingFault where
  /-- The text is not canonical base64. -/
  | base64
  /-- The text is not hexadecimal. -/
  | hex (fault : Hex.Fault)
  /-- A SHA-256 digest has another length than 32 bytes. -/
  | digestLength (length : Nat)
  deriving DecidableEq, Repr

namespace EncodingFault

/-- The wording of a fault. -/
def message : EncodingFault → String
  | base64 => "Invalid encoding: invalid base64"
  | hex fault => s!"Invalid encoding: invalid hex: {fault.message}"
  | digestLength length => s!"Invalid encoding: SHA-256 hash must be 32 bytes, got {length}"

end EncodingFault

/-- What can be wrong with data in one of the formats. -/
inductive FormatError where
  /-- A document that cannot be decoded. -/
  | json (fault : Json.DecodeError)
  /-- A text that does not encode the expected bytes. -/
  | encoding (fault : EncodingFault)
  /-- A media type of no known bundle version. -/
  | mediaType (text : String)
  /-- A name of no known hash algorithm. -/
  | hashAlgorithm (name : String)
  deriving DecidableEq, Repr

namespace FormatError

/-- The wording of an error; a malformed document has none of its own. -/
def message? : FormatError → Option String
  | json .malformed => none
  | json (.refused reason) => some reason
  | encoding fault => some fault.message
  | mediaType text => some s!"Invalid media type: {text}"
  | hashAlgorithm name => some s!"Invalid hash algorithm: {name}"

end FormatError
end Countersign
