import Countersign.Json.Decode
import Countersign.Json.Encode

/-!
# Proposed entries

What is sent to a log to be recorded: a signature over a digest, or a signed envelope.  The two
forms are told apart by the members they need, not by the kind that they name.
-/

namespace Countersign

open Json

/-- An entry for a signature over a digest. -/
structure HashedEntry where
  /-- The version of the form. -/
  apiVersion : String
  /-- The kind that the entry names. -/
  kind : String
  /-- The name of the hash function. -/
  algorithm : String
  /-- The digest in hexadecimal. -/
  value : String
  /-- The signature in base64. -/
  signature : String
  /-- The certificate or key in base64. -/
  publicKey : String
  deriving DecidableEq, Repr

namespace HashedEntry

/-- Decodes the name of the hash function and the digest. -/
def hashDecoder : Decoder (String × String) :=
  Decoder.record ["algorithm", "value"]
    (Prod.mk <$> Fields.required "algorithm" Decoder.string
      <*> Fields.required "value" Decoder.string)

/-- Decodes what is signed. -/
def dataDecoder : Decoder (String × String) :=
  Decoder.record ["hash"] (Fields.required "hash" hashDecoder)

/-- Decodes a key. -/
def keyDecoder : Decoder String :=
  Decoder.record ["content"] (Fields.required "content" Decoder.string)

/-- Decodes the signature and its key. -/
def signatureDecoder : Decoder (String × String) :=
  Decoder.record ["content", "publicKey"]
    (Prod.mk <$> Fields.required "content" Decoder.string
      <*> Fields.required "publicKey" keyDecoder)

/-- Decodes the part that depends on the kind. -/
def specDecoder : Decoder ((String × String) × (String × String)) :=
  Decoder.record ["data", "signature"]
    (Prod.mk <$> Fields.required "data" dataDecoder
      <*> Fields.required "signature" signatureDecoder)

/-- Decodes an entry. -/
def decoder : Decoder HashedEntry :=
  Decoder.record ["apiVersion", "kind", "spec"]
    ((fun apiVersion kind spec => ⟨apiVersion, kind, spec.1.1, spec.1.2, spec.2.1, spec.2.2⟩)
      <$> Fields.required "apiVersion" Decoder.string
      <*> Fields.required "kind" Decoder.string
      <*> Fields.required "spec" specDecoder)

/-- The document of an entry. -/
def toDocument (entry : HashedEntry) : Document :=
  .record [
    .always "apiVersion" (.string entry.apiVersion),
    .always "kind" (.string entry.kind),
    .always "spec" (.record [
      .always "data" (.record [
        .always "hash" (.record [
          .always "algorithm" (.string entry.algorithm),
          .always "value" (.string entry.value)])]),
      .always "signature" (.record [
        .always "content" (.string entry.signature),
        .always "publicKey" (.record [.always "content" (.string entry.publicKey)])])])]

end HashedEntry

/-- An entry for a signed envelope. -/
structure EnvelopeEntry where
  /-- The version of the form. -/
  apiVersion : String
  /-- The kind that the entry names. -/
  kind : String
  /-- The text of the envelope. -/
  envelope : String
  /-- The keys in base64. -/
  verifiers : List String
  deriving DecidableEq, Repr

namespace EnvelopeEntry

/-- Decodes the envelope and its keys. -/
def contentDecoder : Decoder (String × List String) :=
  Decoder.record ["envelope", "verifiers"]
    (Prod.mk <$> Fields.required "envelope" Decoder.string
      <*> Fields.required "verifiers" (Decoder.list Decoder.string))

/-- Decodes the part that depends on the kind. -/
def specDecoder : Decoder (String × List String) :=
  Decoder.record ["proposedContent"] (Fields.required "proposedContent" contentDecoder)

/-- Decodes an entry. -/
def decoder : Decoder EnvelopeEntry :=
  Decoder.record ["apiVersion", "kind", "spec"]
    ((fun apiVersion kind spec => ⟨apiVersion, kind, spec.1, spec.2⟩)
      <$> Fields.required "apiVersion" Decoder.string
      <*> Fields.required "kind" Decoder.string
      <*> Fields.required "spec" specDecoder)

/-- The document of an entry. -/
def toDocument (entry : EnvelopeEntry) : Document :=
  .record [
    .always "apiVersion" (.string entry.apiVersion),
    .always "kind" (.string entry.kind),
    .always "spec" (.record [
      .always "proposedContent" (.record [
        .always "envelope" (.string entry.envelope),
        .always "verifiers" (.list .string entry.verifiers)])])]

end EnvelopeEntry

/-- An entry that is proposed to a log. -/
inductive ProposedEntry where
  | hashed (entry : HashedEntry)
  | envelope (entry : EnvelopeEntry)
  deriving DecidableEq, Repr

namespace ProposedEntry

/-- The kind that an entry names. -/
def kind : ProposedEntry → String
  | hashed entry => entry.kind
  | envelope entry => entry.kind

/-- The version of the form of an entry. -/
def apiVersion : ProposedEntry → String
  | hashed entry => entry.apiVersion
  | envelope entry => entry.apiVersion

/-- Decodes an entry in the first form that it fits.  All of it is kept before the form is known,
so all of it has to be acceptable. -/
def decoder : Decoder ProposedEntry := fun document =>
  if document.isKept Document.maxDepth then
    Decoder.orElse (fun document => (HashedEntry.decoder document).map hashed)
      (fun document => (EnvelopeEntry.decoder document).map envelope) document
  else .error .malformed

/-- The document of an entry. -/
def toDocument : ProposedEntry → Document
  | hashed entry => entry.toDocument
  | envelope entry => entry.toDocument

end ProposedEntry
end Countersign
