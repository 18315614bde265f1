import Countersign.Bundle.LoggedEntry
import Countersign.Json.Value
import Countersign.Submission.Error

/-!
# Bodies of entries

What a log keeps of an entry.  The kind and its version are read; the part that depends on the
kind is kept as it is.
-/

namespace Countersign

open Json

/-- The body of an entry. -/
structure EntryBody where
  /-- The version of the kind. -/
  apiVersion : String
  /-- The kind. -/
  kind : String
  /-- The part that depends on the kind; null if there is none. -/
  spec : Value

namespace EntryBody

/-- Decodes the part that depends on the kind, which stands one level deep. -/
def specDecoder : Decoder Value := fun document =>
  match Value.ofDocument? (Document.maxDepth - 1) document with
  | some value => .ok value
  | none => .error .malformed

/-- Decodes a body. -/
def decoder : Decoder EntryBody :=
  Decoder.record ["apiVersion", "kind", "spec"]
    (mk <$> Fields.required "apiVersion" Decoder.string
      <*> Fields.required "kind" Decoder.string
      <*> Fields.optional "spec" .null specDecoder)

/-- The document of a body. -/
def toDocument (body : EntryBody) : Document :=
  .record [
    .always "apiVersion" (.string body.apiVersion),
    .always "kind" (.string body.kind),
    .always "spec" body.spec.toDocument]

/-- The body that a byte string holds. -/
def ofBytes (bytes : Bytes) : Except SubmissionError EntryBody :=
  ((Text.readBytes bytes).decode decoder).mapError fun _ => .response .body

/-- The kind with its version. -/
def kindVersion (body : EntryBody) : KindVersion :=
  ⟨body.kind, body.apiVersion⟩

end EntryBody
end Countersign
