import Countersign.Submission.EntryBody

/-!
# Entries as logs answer them

A log answers with entries by identifier.  Its hashes and its own identifier are hexadecimal, and
the kind of an entry is found in the body; for a bundle all of this is decoded, or the answer is
refused.
-/

namespace Countersign

open Json

/-- The proof of inclusion in a log's answer. -/
structure AnsweredProof where
  /-- The signed head of the tree. -/
  checkpoint : String
  /-- The path from the entry to the root, in hexadecimal. -/
  hashes : List String
  /-- The index of the entry in the tree. -/
  logIndex : Int64
  /-- The root of the tree, in hexadecimal. -/
  rootHash : String
  /-- The size of the tree. -/
  treeSize : Int64
  deriving DecidableEq

namespace AnsweredProof

/-- The member names in order. -/
def memberNames : List String :=
  ["checkpoint", "hashes", "logIndex", "rootHash", "treeSize"]

/-- Decodes a proof. -/
def decoder : Decoder AnsweredProof :=
  Decoder.record memberNames
    (mk <$> Fields.required "checkpoint" Decoder.string
      <*> Fields.required "hashes" (Decoder.list Decoder.string)
      <*> Fields.required "logIndex" Decoder.int64
      <*> Fields.required "rootHash" Decoder.string
      <*> Fields.required "treeSize" Decoder.int64)

/-- The document of an integer. -/
def integerDocument (value : Int64) : Document :=
  .number (Numeral.ofInt value.toInt)

/-- The document of a proof. -/
def toDocument (proof : AnsweredProof) : Document :=
  .record [
    .always "checkpoint" (.string proof.checkpoint),
    .always "hashes" (.list .string proof.hashes),
    .always "logIndex" (integerDocument proof.logIndex),
    .always "rootHash" (.string proof.rootHash),
    .always "treeSize" (integerDocument proof.treeSize)]

/-- A digest in hexadecimal. -/
def digest (text : String) : Except SubmissionError Sha256Digest :=
  (Sha256Digest.ofHex text).mapError fun fault => .response (.proofHash fault)

/-- The proof as a bundle records it. -/
def toInclusionProof (proof : AnsweredProof) : Except SubmissionError InclusionProof := do
  let rootHash ← digest proof.rootHash
  let hashes ← proof.hashes.mapM digest
  return ⟨proof.logIndex, rootHash, proof.treeSize, hashes, proof.checkpoint⟩

end AnsweredProof

/-- What a log's answer holds for verifying an entry. -/
structure AnsweredVerification where
  /-- The proof of inclusion. -/
  proof? : Option AnsweredProof
  /-- The signed promise to include the entry. -/
  promise? : Option Bytes
  deriving DecidableEq

namespace AnsweredVerification

/-- Decodes what is needed for verifying. -/
def decoder : Decoder AnsweredVerification :=
  Decoder.record ["inclusionProof", "signedEntryTimestamp"]
    (mk <$> Fields.nullable "inclusionProof" AnsweredProof.decoder
      <*> Fields.nullable "signedEntryTimestamp" Blob.decoder)

/-- The document of what is needed for verifying. -/
def toDocument (verification : AnsweredVerification) : Document :=
  .record [
    .always "inclusionProof" (.orNull AnsweredProof.toDocument verification.proof?),
    .always "signedEntryTimestamp" (.orNull Blob.toDocument verification.promise?)]

end AnsweredVerification

/-- An entry in a log's answer. -/
structure LogEntry where
  /-- The body. -/
  body : Bytes
  /-- When the entry was recorded, in seconds. -/
  integratedTime : Int64
  /-- The identifier of the log, in hexadecimal. -/
  logId : String
  /-- The index of the entry in the log. -/
  logIndex : Int64
  /-- What is needed for verifying the entry. -/
  verification? : Option AnsweredVerification
  deriving DecidableEq

namespace LogEntry

/-- The member names in order. -/
def memberNames : List String :=
  ["body", "integratedTime", "logID", "logIndex", "verification"]

/-- Decodes an entry. -/
def decoder : Decoder LogEntry :=
  Decoder.record memberNames
    (mk <$> Fields.required "body" Blob.decoder
      <*> Fields.required "integratedTime" Decoder.int64
      <*> Fields.required "logID" Decoder.string
      <*> Fields.required "logIndex" Decoder.int64
      <*> Fields.nullable "verification" AnsweredVerification.decoder)

/-- The document of an entry. -/
def toDocument (entry : LogEntry) : Document :=
  .record [
    .always "body" (Blob.toDocument entry.body),
    .always "integratedTime" (AnsweredProof.integerDocument entry.integratedTime),
    .always "logID" (.string entry.logId),
    .always "logIndex" (AnsweredProof.integerDocument entry.logIndex),
    .always "verification" (.orNull AnsweredVerification.toDocument entry.verification?)]

/-- The identifier of the log. -/
def logKeyId (entry : LogEntry) : Except SubmissionError Bytes :=
  (Hex.decode entry.logId).mapError fun fault => .response (.logId entry.logId fault)

/-- The proof of inclusion as a bundle records it. -/
def inclusionProof? (entry : LogEntry) : Except SubmissionError (Option InclusionProof) :=
  match entry.verification?.bind (·.proof?) with
  | none => .ok none
  | some proof => proof.toInclusionProof.map some

/-- The entry as a bundle records it. -/
def toLoggedEntry (entry : LogEntry) : Except SubmissionError LoggedEntry := do
  let body ← EntryBody.ofBytes entry.body
  let logKeyId ← entry.logKeyId
  let proof? ← entry.inclusionProof?
  return {
    logIndex := entry.logIndex
    logKeyId
    kindVersion := body.kindVersion
    integratedTime := entry.integratedTime
    promise? := entry.verification?.bind (·.promise?)
    proof?
    canonicalizedBody := entry.body }

end LogEntry

/-- Entries by identifier, without repetition. -/
abbrev LogEntries := List (String × LogEntry)

namespace LogEntries

/-- Puts an entry in place of the one with the same identifier, or at the end. -/
def put (id : String) (entry : LogEntry) : LogEntries → LogEntries
  | [] => [(id, entry)]
  | (key, old) :: rest =>
    if key = id then (key, entry) :: rest else (key, old) :: put id entry rest

/-- Decodes entries member by member; of several members with one name the last counts. -/
def decoder : Decoder LogEntries
  | .object members =>
    members.foldlM
      (fun entries (id, document) =>
        (LogEntry.decoder document).map fun entry => put id entry entries)
      []
  | _ => .error .malformed

end LogEntries

/-- What a log answers when it has recorded an entry. -/
structure CreatedEntries where
  /-- The identifier of the new entry. -/
  etag? : Option String := none
  /-- The address of the new entry. -/
  location? : Option String := none
  /-- The entries. -/
  entries : LogEntries := []
  deriving DecidableEq

namespace CreatedEntries

/-- The new entry: the one with the given identifier, or else the only one. -/
def created (answer : CreatedEntries) : Except SubmissionError LogEntry :=
  match answer.etag?.bind (answer.entries.lookup ·), answer.entries with
  | some entry, _ => .ok entry
  | none, [(_, entry)] => .ok entry
  | none, _ => .error (.response .ambiguous)

end CreatedEntries
end Countersign
