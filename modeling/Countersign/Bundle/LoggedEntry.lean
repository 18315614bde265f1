import Countersign.Format.Sha256Digest
import Countersign.Json.Int64Text

/-!
# Entries of a transparency log

What a log says about one entry: where it stands, when it was recorded, the promise to include it,
and the proof that it is included.
-/

namespace Countersign

open Json

/-- The proof that an entry is in the tree of a log. -/
structure InclusionProof where
  /-- The index of the entry in the tree. -/
  logIndex : Int64
  /-- The root of the tree. -/
  rootHash : Sha256Digest
  /-- The size of the tree. -/
  treeSize : Int64
  /-- The path from the entry to the root. -/
  hashes : List Sha256Digest
  /-- The signed head of the tree; empty when there is none. -/
  checkpoint : String
  deriving DecidableEq

namespace InclusionProof

/-- Decodes a signed tree head. -/
def checkpointDecoder : Decoder String :=
  Decoder.record ["envelope"] (Fields.optional "envelope" "" Decoder.string)

/-- The member names in order. -/
def memberNames : List String :=
  ["logIndex", "rootHash", "treeSize", "hashes", "checkpoint"]

/-- Decodes a proof. -/
def decoder : Decoder InclusionProof :=
  Decoder.record memberNames
    (mk <$> Fields.required "logIndex" Int64Text.decoder
      <*> Fields.required "rootHash" Sha256Digest.decoder
      <*> Fields.required "treeSize" Int64Text.decoder
      <*> Fields.optional "hashes" [] (Decoder.list Sha256Digest.decoder)
      <*> Fields.optional "checkpoint" "" checkpointDecoder)

/-- The document of a proof. -/
def toDocument (proof : InclusionProof) : Document :=
  .record [
    .always "logIndex" (Int64Text.toDocument proof.logIndex),
    .always "rootHash" proof.rootHash.toDocument,
    .always "treeSize" (Int64Text.toDocument proof.treeSize),
    .always "hashes" (.list Sha256Digest.toDocument proof.hashes),
    .unlessEmpty proof.checkpoint.isEmpty "checkpoint"
      (.record [.always "envelope" (.string proof.checkpoint)])]

end InclusionProof

/-- The kind of an entry and the version of that kind. -/
structure KindVersion where
  /-- The kind. -/
  kind : String
  /-- The version. -/
  version : String
  deriving DecidableEq, Repr

namespace KindVersion

/-- Decodes kind and version. -/
def decoder : Decoder KindVersion :=
  Decoder.record ["kind", "version"]
    (mk <$> Fields.required "kind" Decoder.string <*> Fields.required "version" Decoder.string)

/-- The document of kind and version. -/
def toDocument (kindVersion : KindVersion) : Document :=
  .record [
    .always "kind" (.string kindVersion.kind),
    .always "version" (.string kindVersion.version)]

end KindVersion

/-- An entry of a transparency log as a bundle records it. -/
structure LoggedEntry where
  /-- The index of the entry in the log. -/
  logIndex : Int64
  /-- The identifier of the log's key. -/
  logKeyId : Bytes
  /-- The kind of the entry and its version. -/
  kindVersion : KindVersion
  /-- When the entry was recorded, in seconds; zero when that is not told. -/
  integratedTime : Int64
  /-- The log's signed promise to include the entry. -/
  promise? : Option Bytes
  /-- The proof that the entry is included. -/
  proof? : Option InclusionProof
  /-- The entry as the log keeps it. -/
  canonicalizedBody : Bytes
  deriving DecidableEq

namespace LoggedEntry

/-- Decodes the identifier of a log. -/
def logIdDecoder : Decoder Bytes :=
  Decoder.record ["keyId"] (Fields.required "keyId" Blob.decoder)

/-- The document of a log's identifier. -/
def logIdDocument (keyId : Bytes) : Document :=
  .record [.always "keyId" (Blob.toDocument keyId)]

/-- Decodes a promise of inclusion. -/
def promiseDecoder : Decoder Bytes :=
  Decoder.record ["signedEntryTimestamp"] (Fields.required "signedEntryTimestamp" Blob.decoder)

/-- The document of a promise of inclusion. -/
def promiseDocument (timestamp : Bytes) : Document :=
  .record [.always "signedEntryTimestamp" (Blob.toDocument timestamp)]

/-- The member names in order. -/
def memberNames : List String :=
  ["logIndex", "logId", "kindVersion", "integratedTime", "inclusionPromise", "inclusionProof",
    "canonicalizedBody"]

/-- Decodes an entry. -/
def decoder : Decoder LoggedEntry :=
  Decoder.record memberNames
    (mk <$> Fields.required "logIndex" Int64Text.decoder
      <*> Fields.required "logId" logIdDecoder
      <*> Fields.required "kindVersion" KindVersion.decoder
      <*> Fields.optional "integratedTime" 0 Int64Text.decoder
      <*> Fields.nullable "inclusionPromise" promiseDecoder
      <*> Fields.nullable "inclusionProof" InclusionProof.decoder
      <*> Fields.required "canonicalizedBody" Blob.decoder)

/-- The document of an entry. -/
def toDocument (entry : LoggedEntry) : Document :=
  .record [
    .always "logIndex" (Int64Text.toDocument entry.logIndex),
    .always "logId" (logIdDocument entry.logKeyId),
    .always "kindVersion" entry.kindVersion.toDocument,
    .unlessEmpty (entry.integratedTime == 0) "integratedTime"
      (Int64Text.toDocument entry.integratedTime),
    .of? "inclusionPromise" entry.promise? promiseDocument,
    .of? "inclusionProof" entry.proof? InclusionProof.toDocument,
    .always "canonicalizedBody" (Blob.toDocument entry.canonicalizedBody)]

end LoggedEntry
end Countersign
