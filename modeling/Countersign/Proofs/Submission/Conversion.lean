import Countersign.Proofs.Format.Blob
import Countersign.Submission.LogEntry

/-!
# From a log's answer to a bundle

An answered entry becomes an entry of a bundle when its body decodes and everything that it holds in
hexadecimal does.  Then nothing is lost or changed but the way in which bytes are spelled; otherwise
nothing is recorded at all.
-/

namespace Countersign

open Json

private theorem exists_response_of_mapError {ε α : Type} {outcome : Except ε α}
    {fault : ε → ResponseFault} {error : SubmissionError}
    (refused : outcome.mapError (fun cause => .response (fault cause)) = .error error) :
    ∃ fault, error = .response fault := by
  obtain ⟨cause, -, rfl⟩ := Outcome.mapError_eq_error_iff.mp refused
  exact ⟨fault cause, rfl⟩

namespace EntryBody

/-- A body as a byte string holds it: a JSON document, and nothing after it, that gives the kind and
its version as strings. -/
structure IsHeldBy (body : EntryBody) (bytes : Bytes) : Prop where
  /-- Nothing but blanks follows the document. -/
  complete : (Text.readBytes bytes).complete = true
  /-- The document is an object, or an array of the members' values in order; other members are
  passed over, and what depends on the kind is kept, or null if it is not given. -/
  exists_members : ∃ members,
    (Text.readBytes bytes).document.recordMembers? ["apiVersion", "kind", "spec"] = some members ∧
    members.under "apiVersion" = [.string body.apiVersion] ∧
    members.under "kind" = [.string body.kind] ∧
    (members.under "spec" = [] ∧ body.spec = .null ∨
      ∃ spec, members.under "spec" = [spec] ∧ spec.isKept (Document.maxDepth - 1) = true ∧
        body.spec = Value.ofDocument spec) ∧
    ∀ member ∈ members,
      member.1 ∈ ["apiVersion", "kind", "spec"] ∨ Fields.isPassedOver member = true

private theorem required_string_eq_ok_iff {name text : String} {members : Members} :
    Fields.required name Decoder.string members = .ok text ↔
      members.under name = [.string text] := by
  have string_iff {document : Document} :
      Decoder.string document = .ok text ↔ document = .string text := by
    cases document <;> simp [Decoder.string]
  rw [Fields.required, Fields.member_eq_ok_iff_under]
  simp [string_iff]

private theorem specDecoder_eq_ok_iff {document : Document} {spec : Value} :
    specDecoder document = .ok spec ↔
      document.isKept (Document.maxDepth - 1) = true ∧ spec = Value.ofDocument document := by
  unfold specDecoder Value.ofDocument?
  by_cases kept : document.isKept (Document.maxDepth - 1) = true
  · simp [kept, eq_comm]
  · simp [kept]

private theorem fields_eq_ok_iff {body : EntryBody} {members : Members} :
    (mk <$> Fields.required "apiVersion" Decoder.string
        <*> Fields.required "kind" Decoder.string
        <*> Fields.optional "spec" .null specDecoder) members = .ok body ↔
      members.under "apiVersion" = [.string body.apiVersion] ∧
      members.under "kind" = [.string body.kind] ∧
      (members.under "spec" = [] ∧ body.spec = .null ∨
        ∃ spec, members.under "spec" = [spec] ∧ spec.isKept (Document.maxDepth - 1) = true ∧
          body.spec = Value.ofDocument spec) := by
  simp only [Fields.seq_eq_ok_iff, Fields.map_eq_ok_iff, required_string_eq_ok_iff,
    Fields.optional, Fields.member_eq_ok_iff_under, specDecoder_eq_ok_iff]
  constructor
  · rintro ⟨_, spec, ⟨_, kind, ⟨version, version_read, rfl⟩, kind_read, rfl⟩, spec_read, rfl⟩
    refine ⟨version_read, kind_read, ?_⟩
    rcases spec_read with ⟨absent, same⟩ | given
    · exact .inl ⟨absent, (Except.ok.inj same).symm⟩
    · exact .inr given
  · rintro ⟨version_read, kind_read, spec_read⟩
    refine ⟨_, body.spec, ⟨_, body.kind, ⟨body.apiVersion, version_read, rfl⟩, kind_read, rfl⟩, ?_,
      rfl⟩
    rcases spec_read with ⟨absent, same⟩ | given
    · exact .inl ⟨absent, congrArg Except.ok same.symm⟩
    · exact .inr given

theorem ofBytes_eq_ok_iff {body : EntryBody} {bytes : Bytes} :
    ofBytes bytes = .ok body ↔ body.IsHeldBy bytes := by
  rw [ofBytes, Outcome.mapError_eq_ok_iff, Text.decode_eq_ok_iff, decoder,
    Decoder.record_eq_ok_iff_isPassedOver]
  constructor
  · rintro ⟨⟨members, given, read, passed⟩, complete⟩
    obtain ⟨version_read, kind_read, spec_read⟩ := fields_eq_ok_iff.mp read
    exact ⟨complete, members, given, version_read, kind_read, spec_read, passed⟩
  · rintro ⟨complete, members, given, version_read, kind_read, spec_read, passed⟩
    have read := fields_eq_ok_iff.mpr ⟨version_read, kind_read, spec_read⟩
    exact ⟨⟨members, given, read, passed⟩, complete⟩

theorem IsHeldBy.unique {body other : EntryBody} {bytes : Bytes} (held : body.IsHeldBy bytes)
    (other_held : other.IsHeldBy bytes) : body = other := by
  rw [← ofBytes_eq_ok_iff] at held other_held
  exact Except.ok.inj (held.symm.trans other_held)

end EntryBody

namespace AnsweredProof

/-- Whether all hashes of a proof are digests in hexadecimal. -/
structure IsRecordable (proof : AnsweredProof) : Prop where
  /-- The root is one. -/
  rootHash : Sha256Digest.IsHexadecimal proof.rootHash
  /-- So is every hash of the path. -/
  hashes : ∀ hash ∈ proof.hashes, Sha256Digest.IsHexadecimal hash

/-- What a bundle records of a proof. -/
structure IsRecordedAs (proof : AnsweredProof) (recorded : InclusionProof) : Prop where
  /-- The index is unchanged. -/
  logIndex_eq : recorded.logIndex = proof.logIndex
  /-- The size of the tree is unchanged. -/
  treeSize_eq : recorded.treeSize = proof.treeSize
  /-- The signed head of the tree is unchanged. -/
  checkpoint_eq : recorded.checkpoint = proof.checkpoint
  /-- The root is spelled by the same digits in lowercase. -/
  rootHash_eq : recorded.rootHash.toHex = proof.rootHash.toLower
  /-- The path has as many hashes, in the same order, each spelled by the same digits. -/
  hashes_eq : recorded.hashes.map Sha256Digest.toHex = proof.hashes.map String.toLower

theorem digest_eq_ok_iff {text : String} {result : Sha256Digest} :
    digest text = .ok result ↔
      Sha256Digest.IsHexadecimal text ∧ result.toHex = text.toLower := by
  rw [digest, Outcome.mapError_eq_ok_iff, Sha256Digest.ofHex_eq_ok_iff]

theorem mapM_digest_eq_ok_iff {texts : List String} {results : List Sha256Digest} :
    texts.mapM digest = .ok results ↔
      (∀ text ∈ texts, Sha256Digest.IsHexadecimal text) ∧
        results.map Sha256Digest.toHex = texts.map String.toLower := by
  rw [Outcome.mapM_eq_ok_iff]
  induction texts generalizing results with
  | nil => cases results <;> simp
  | cons text texts ih =>
    cases results with
    | nil => simp
    | cons result results =>
      rw [List.forall₂_cons, ih, digest_eq_ok_iff, List.forall_mem_cons, List.map_cons,
        List.map_cons, List.cons.injEq]
      exact and_and_and_comm

theorem toInclusionProof_eq_ok_iff {proof : AnsweredProof} {recorded : InclusionProof} :
    proof.toInclusionProof = .ok recorded ↔ proof.IsRecordable ∧ proof.IsRecordedAs recorded := by
  simp only [toInclusionProof, Outcome.bind_eq_ok_iff, digest_eq_ok_iff, mapM_digest_eq_ok_iff]
  constructor
  · rintro ⟨rootHash, ⟨root_recordable, rootHash_eq⟩, hashes, ⟨hashes_recordable, hashes_eq⟩, same⟩
    cases same
    exact ⟨⟨root_recordable, hashes_recordable⟩, rfl, rfl, rfl, rootHash_eq, hashes_eq⟩
  · rintro ⟨recordable, kept⟩
    refine ⟨_, ⟨recordable.rootHash, kept.rootHash_eq⟩, _, ⟨recordable.hashes, kept.hashes_eq⟩, ?_⟩
    rw [← kept.logIndex_eq, ← kept.treeSize_eq, ← kept.checkpoint_eq]
    rfl

theorem exists_toInclusionProof_eq_ok_iff {proof : AnsweredProof} :
    (∃ recorded, proof.toInclusionProof = .ok recorded) ↔ proof.IsRecordable := by
  refine ⟨fun ⟨_, done⟩ => (toInclusionProof_eq_ok_iff.mp done).1, fun recordable => ?_⟩
  obtain ⟨rootHash, root_read⟩ := Sha256Digest.exists_ofHex_eq_ok_iff.mpr recordable.rootHash
  have each : ∀ hash ∈ proof.hashes, ∃ result, digest hash = .ok result := fun hash listed =>
    (Sha256Digest.exists_ofHex_eq_ok_iff.mpr (recordable.hashes hash listed)).imp fun _ read =>
      Outcome.mapError_eq_ok_iff.mpr read
  obtain ⟨hashes, hashes_read⟩ := Outcome.exists_mapM_eq_ok_iff.mpr each
  refine ⟨⟨proof.logIndex, rootHash, proof.treeSize, hashes, proof.checkpoint⟩,
    toInclusionProof_eq_ok_iff.mpr ⟨recordable, rfl, rfl, rfl, ?_, ?_⟩⟩
  · exact (Sha256Digest.ofHex_eq_ok_iff.mp root_read).2
  · exact (mapM_digest_eq_ok_iff.mp hashes_read).2

theorem digest_eq_error {text : String} {error : SubmissionError}
    (refused : digest text = .error error) : ∃ fault, error = .response fault :=
  exists_response_of_mapError refused

theorem toInclusionProof_eq_error {proof : AnsweredProof} {error : SubmissionError}
    (refused : proof.toInclusionProof = .error error) : ∃ fault, error = .response fault := by
  rcases Outcome.bind_eq_error_iff.mp refused with root_refused | ⟨rootHash, -, path_refused⟩
  · exact digest_eq_error root_refused
  · rcases Outcome.bind_eq_error_iff.mp path_refused with hashes_refused | ⟨_, -, impossible⟩
    · obtain ⟨hash, -, hash_refused⟩ := Outcome.mapM_eq_error hashes_refused
      exact digest_eq_error hash_refused
    · cases impossible

end AnsweredProof

namespace LogEntry

/-- The proof of inclusion, if the answer has one. -/
def proof? (entry : LogEntry) : Option AnsweredProof :=
  entry.verification?.bind (·.proof?)

/-- Whether an answered entry can be recorded. -/
structure IsRecordable (entry : LogEntry) : Prop where
  /-- The body decodes. -/
  body : ∃ body : EntryBody, body.IsHeldBy entry.body
  /-- The identifier of the log is hexadecimal. -/
  logId : Hex.IsHexadecimal entry.logId
  /-- A proof of inclusion, if there is one, can be recorded. -/
  proof : ∀ proof ∈ entry.proof?, proof.IsRecordable

/-- What a bundle records of an answered entry. -/
structure IsRecordedAs (entry : LogEntry) (logged : LoggedEntry) : Prop where
  /-- The kind and its version are those of the body. -/
  kindVersion_eq (body : EntryBody) : body.IsHeldBy entry.body →
    logged.kindVersion = ⟨body.kind, body.apiVersion⟩
  /-- The index is unchanged. -/
  logIndex_eq : logged.logIndex = entry.logIndex
  /-- The time is unchanged. -/
  integratedTime_eq : logged.integratedTime = entry.integratedTime
  /-- The body is unchanged. -/
  body_eq : logged.canonicalizedBody = entry.body
  /-- The identifier of the log is spelled by the same digits in lowercase. -/
  logKeyId_eq : Hex.encode logged.logKeyId = entry.logId.toLower
  /-- There is a promise exactly if the answer has it, and it is unchanged. -/
  promise?_eq : logged.promise? = entry.verification?.bind (·.promise?)
  /-- There is a proof exactly if the answer has one. -/
  proof? : Option.Rel AnsweredProof.IsRecordedAs entry.proof? logged.proof?

theorem logKeyId_eq_ok_iff {entry : LogEntry} {keyId : Bytes} :
    entry.logKeyId = .ok keyId ↔
      Hex.IsHexadecimal entry.logId ∧ Hex.encode keyId = entry.logId.toLower := by
  rw [logKeyId, Outcome.mapError_eq_ok_iff, Hex.decode_eq_ok_iff]

theorem inclusionProof?_eq_ok_iff {entry : LogEntry} {recorded? : Option InclusionProof} :
    entry.inclusionProof? = .ok recorded? ↔
      (∀ proof ∈ entry.proof?, proof.IsRecordable) ∧
        Option.Rel AnsweredProof.IsRecordedAs entry.proof? recorded? := by
  rw [inclusionProof?, ← proof?]
  cases entry.proof? with
  | none => cases recorded? <;> simp
  | some proof =>
    rw [Outcome.map_eq_ok_iff]
    cases recorded? <;> simp [AnsweredProof.toInclusionProof_eq_ok_iff]

theorem exists_inclusionProof?_eq_ok_iff {entry : LogEntry} :
    (∃ recorded?, entry.inclusionProof? = .ok recorded?) ↔
      ∀ proof ∈ entry.proof?, proof.IsRecordable := by
  rw [inclusionProof?, ← proof?]
  cases entry.proof? with
  | none => simp
  | some proof =>
    simp [Outcome.map_eq_ok_iff, AnsweredProof.exists_toInclusionProof_eq_ok_iff]

theorem toLoggedEntry_eq_ok_iff {entry : LogEntry} {logged : LoggedEntry} :
    entry.toLoggedEntry = .ok logged ↔ entry.IsRecordable ∧ entry.IsRecordedAs logged := by
  simp only [toLoggedEntry, Outcome.bind_eq_ok_iff, EntryBody.ofBytes_eq_ok_iff,
    logKeyId_eq_ok_iff, inclusionProof?_eq_ok_iff]
  constructor
  · rintro ⟨body, held, keyId, ⟨hexadecimal, keyId_eq⟩, recorded?, ⟨recordable, recorded⟩, same⟩
    cases same
    refine ⟨⟨⟨body, held⟩, hexadecimal, recordable⟩, ?_, rfl, rfl, rfl, keyId_eq, rfl, recorded⟩
    intro other other_held
    cases held.unique other_held
    rfl
  · rintro ⟨recordable, kept⟩
    obtain ⟨body, held⟩ := recordable.body
    have kindVersion_eq : body.kindVersion = logged.kindVersion :=
      (kept.kindVersion_eq body held).symm
    refine ⟨body, held, logged.logKeyId, ⟨recordable.logId, kept.logKeyId_eq⟩, logged.proof?,
      ⟨recordable.proof, kept.proof?⟩, ?_⟩
    rw [kindVersion_eq, ← kept.logIndex_eq, ← kept.integratedTime_eq, ← kept.promise?_eq,
      ← kept.body_eq]
    rfl

theorem exists_toLoggedEntry_eq_ok_iff {entry : LogEntry} :
    (∃ logged, entry.toLoggedEntry = .ok logged) ↔ entry.IsRecordable := by
  refine ⟨fun ⟨_, done⟩ => (toLoggedEntry_eq_ok_iff.mp done).1, fun recordable => ?_⟩
  obtain ⟨body, held⟩ := recordable.body
  obtain ⟨keyId, key_read⟩ := Hex.exists_decode_eq_ok_iff.mpr recordable.logId
  obtain ⟨recorded?, proof_read⟩ := exists_inclusionProof?_eq_ok_iff.mpr recordable.proof
  simp only [toLoggedEntry, Outcome.bind_eq_ok_iff]
  exact ⟨_, body, EntryBody.ofBytes_eq_ok_iff.mpr held, keyId,
    Outcome.mapError_eq_ok_iff.mpr key_read, recorded?, proof_read, rfl⟩

theorem toLoggedEntry_eq_error {entry : LogEntry} {error : SubmissionError}
    (refused : entry.toLoggedEntry = .error error) : ∃ fault, error = .response fault := by
  rw [toLoggedEntry] at refused
  rcases Outcome.bind_eq_error_iff.mp refused with body_refused | ⟨body, -, refused⟩
  · exact exists_response_of_mapError body_refused
  rcases Outcome.bind_eq_error_iff.mp refused with key_refused | ⟨keyId, -, refused⟩
  · exact exists_response_of_mapError key_refused
  rcases Outcome.bind_eq_error_iff.mp refused with proof_refused | ⟨_, -, impossible⟩
  · rw [inclusionProof?] at proof_refused
    split at proof_refused
    · cases proof_refused
    · exact AnsweredProof.toInclusionProof_eq_error (Outcome.map_eq_error_iff.mp proof_refused)
  · cases impossible

/-- An answered entry is recorded whole or not at all. -/
theorem recorded_whole_or_not_at_all (entry : LogEntry) :
    (∀ body, EntryBody.ofBytes entry.body = .ok body ↔ body.IsHeldBy entry.body) ∧
    ((∃ logged, entry.toLoggedEntry = .ok logged) ↔ entry.IsRecordable) ∧
    (∀ logged, entry.toLoggedEntry = .ok logged ↔ entry.IsRecordable ∧ entry.IsRecordedAs logged) ∧
    ∀ error, entry.toLoggedEntry = .error error →
      (∃ fault, error = .response fault) ∧ error.isTransportFailure = true := by
  refine ⟨fun _ => EntryBody.ofBytes_eq_ok_iff, exists_toLoggedEntry_eq_ok_iff,
    fun _ => toLoggedEntry_eq_ok_iff, fun error refused => ?_⟩
  obtain ⟨fault, rfl⟩ := toLoggedEntry_eq_error refused
  exact ⟨⟨fault, rfl⟩, rfl⟩

end LogEntry
end Countersign
