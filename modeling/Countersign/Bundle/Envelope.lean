import Countersign.Format.Blob

/-!
# Signed envelopes

A DSSE envelope carries a payload with its type and any number of signatures over both.
-/

namespace Countersign

/-- One signature of an envelope. -/
structure EnvelopeSignature where
  /-- A hint for finding the key; empty when there is none. -/
  keyId : String
  /-- The signature bytes. -/
  signature : Bytes
  deriving DecidableEq, Repr

namespace EnvelopeSignature

open Json

/-- Decodes one signature. -/
def decoder : Decoder EnvelopeSignature :=
  Decoder.record ["keyid", "sig"]
    (mk <$> Fields.optional "keyid" "" Decoder.string <*> Fields.required "sig" Blob.decoder)

/-- The document of one signature. -/
def toDocument (signature : EnvelopeSignature) : Document :=
  .record [
    .unlessEmpty signature.keyId.isEmpty "keyid" (.string signature.keyId),
    .always "sig" (Blob.toDocument signature.signature)]

end EnvelopeSignature

/-- A payload with signatures. -/
structure Envelope where
  /-- The type of the payload. -/
  payloadType : String
  /-- The payload. -/
  payload : Bytes
  /-- The signatures in order. -/
  signatures : List EnvelopeSignature
  deriving DecidableEq, Repr

namespace Envelope

open Json

/-- Decodes an envelope. -/
def decoder : Decoder Envelope :=
  Decoder.record ["payloadType", "payload", "signatures"]
    (mk <$> Fields.required "payloadType" Decoder.string
      <*> Fields.required "payload" Blob.decoder
      <*> Fields.required "signatures" (Decoder.list EnvelopeSignature.decoder))

/-- The document of an envelope. -/
def toDocument (envelope : Envelope) : Document :=
  .record [
    .always "payloadType" (.string envelope.payloadType),
    .always "payload" (Blob.toDocument envelope.payload),
    .always "signatures" (.list EnvelopeSignature.toDocument envelope.signatures)]

/-- The compact text that is submitted to logs. -/
def canonicalText (envelope : Envelope) : String :=
  envelope.toDocument.compact

end Envelope
end Countersign
