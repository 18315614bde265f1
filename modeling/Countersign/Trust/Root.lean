import Countersign.Json.Patch
import Countersign.Text.Utf8
import Countersign.Trust.Anchors

/-!
# Trust roots

A trust root holds trust anchors and, if it was read from a document, that document.  It is
written by laying the anchors over the document, so members that mean nothing here are written
back unchanged.  Two trust roots are the same if their anchors are.
-/

namespace Countersign

open Json

/-- Trust anchors with the document that they come from. -/
structure TrustRoot extends TrustAnchors where
  /-- The document. -/
  source? : Option Value

namespace TrustRoot

/-- The trust root of trust anchors that come from no document. -/
def ofAnchors (anchors : TrustAnchors) : TrustRoot :=
  ⟨anchors, none⟩

/-- The trust root of a decoded document, which is not kept. -/
def ofRecord (record : RootRecord) : Except TrustError TrustRoot :=
  (TrustAnchors.ofRecord record).map ofAnchors

/-- The trust root that a value describes. -/
def ofValue (value : Value) : Except TrustError TrustRoot := do
  let record ← (RootRecord.decoder value.toDocument).mapError .json
  let anchors ← TrustAnchors.ofRecord record
  return ⟨anchors, some value⟩

/-- The value of a whole JSON text. -/
def valueOfText (text : Text) : Except TrustError Value :=
  match Value.ofDocument? Document.maxDepth text.document with
  | some value => if text.complete then .ok value else .error (.json .malformed)
  | none => .error (.json .malformed)

/-- Reads a trust root from a JSON text. -/
def ofJson (text : String) : Except TrustError TrustRoot :=
  (valueOfText (Text.read text)).bind ofValue

/-- Reads a trust root from the content of a file; there may be no such file. -/
def ofFile (content? : Option Bytes) : Except TrustError TrustRoot :=
  match content?.bind Utf8.decode? with
  | some text => ofJson text
  | none => .error .unreadable

/-- Reads the members of a trust root from a JSON text without judging them. -/
def recordOfJson (text : String) : Except TrustError RootRecord :=
  ((Text.read text).decode RootRecord.decoder).mapError .json

/-- How a fault shows in a document that holds a trust root: only faults of its content keep their
wording. -/
def decodeError (error : TrustError) : DecodeError :=
  if error.isMalformed then .refused (error.message?.getD "") else .malformed

/-- Decodes a trust root that stands in a document. -/
def decoder : Decoder TrustRoot := fun document =>
  match Value.ofDocument? Document.maxDepth document with
  | some value => (ofValue value).mapError decodeError
  | none => .error .malformed

/-- The value of the anchors alone. -/
def anchorValue (root : TrustRoot) : Value :=
  Value.ofDocument root.toRecord.toDocument

/-- The value of a trust root: its anchors, laid over the document that they come from. -/
def toValue (root : TrustRoot) : Value :=
  match root.source? with
  | some source => source.patch root.anchorValue
  | none => root.anchorValue

/-- The compact JSON text of a trust root. -/
def toJson (root : TrustRoot) : String :=
  root.toValue.toDocument.compact

/-- The indented JSON text of a trust root. -/
def toIndentedJson (root : TrustRoot) : String :=
  root.toValue.toDocument.indented

/-- Whether two trust roots have the same anchors. -/
def agrees (first second : TrustRoot) : Bool :=
  first.toTrustAnchors = second.toTrustAnchors

end TrustRoot
end Countersign
