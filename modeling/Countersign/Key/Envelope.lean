import Countersign.Der.Oid

/-!
# Keys in an envelope

A key that checks signatures may come in an envelope that names its algorithm.  What the envelope
says about the algorithm is kept as it is, and anything may follow the envelope.
-/

namespace Countersign

open Der

/-- A key in its envelope. -/
structure KeyEnvelope where
  /-- The content of the identifier of the algorithm. -/
  algorithm : Bytes
  /-- What follows the identifier. -/
  parameters : Bytes
  /-- The key. -/
  key : Bytes
  deriving DecidableEq, Repr

namespace KeyEnvelope

/-- Reads the parts of an envelope; the key fills its bytes. -/
def partsReader : Reader KeyEnvelope := do
  let algorithm ← Reader.tagged Tag.sequence
  let bits ← Reader.tagged Tag.bitString
  let (identifier, parameters) ← StateT.lift (Reader.tagged Tag.objectIdentifier algorithm)
  match bits with
  | 0x00 :: key => return ⟨identifier, parameters, key⟩
  | _ => failure

/-- The envelope at the front of a byte string. -/
def ofBytes? (bytes : Bytes) : Option KeyEnvelope :=
  match Reader.tagged Tag.sequence bytes with
  | some (content, _) => Reader.whole partsReader content
  | none => none

/-- The key in an envelope for a given algorithm without parameters. -/
def keyFor? (algorithm : Oid) (bytes : Bytes) : Option Bytes :=
  match ofBytes? bytes with
  | some envelope =>
    if envelope.algorithm = algorithm.content ∧ envelope.parameters = [] then some envelope.key
    else none
  | none => none

end KeyEnvelope
end Countersign
