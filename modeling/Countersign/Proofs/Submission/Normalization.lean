import Mathlib.Data.List.TakeDrop
import Mathlib.Data.List.TakeWhile
import Countersign.Proofs.Outcome
import Countersign.Proofs.Text.Base64
import Countersign.Proofs.Text.Hex
import Countersign.Submission.Artifact

/-!
# Entries for signatures are normalized

An entry for a signature is made of exactly those artifacts whose keys are in the format of
certificates, that are signed, that have one key, and whose hash holds a digest in hexadecimal.  The
entry spells the digest in lowercase, and spells it out with its hash function: an artifact with
that hash has the same entry.
-/

namespace Countersign
namespace EntryFactory

/-- A hash is divided at its first colon into the name of its function and its digest.  A hash
without a colon is a digest of SHA-256. -/
inductive Divides : (hash algorithm value : String) → Prop
  | named {algorithm : String} (no_colon : ':' ∉ algorithm.toList) (value : String) :
    Divides (algorithm ++ ":" ++ value) algorithm value
  | bare {value : String} (no_colon : ':' ∉ value.toList) : Divides value "sha256" value

theorem Divides.no_colon {hash algorithm value : String} (divides : Divides hash algorithm value) :
    ':' ∉ algorithm.toList := by
  cases divides with
  | named no_colon => exact no_colon
  | bare => decide

private theorem all_ne_of_not_mem {characters : List Char} (no_colon : ':' ∉ characters) :
    ∀ character ∈ characters, decide (character ≠ ':') = true := by
  intro character listed
  refine decide_eq_true ?_
  rintro rfl
  exact no_colon listed

theorem Divides.splitHash_eq {hash algorithm value : String}
    (divides : Divides hash algorithm value) : splitHash hash = (algorithm, value) := by
  cases divides with
  | named no_colon =>
    have passed := all_ne_of_not_mem no_colon
    have spelled : (algorithm ++ ":" ++ value).toList =
        algorithm.toList ++ ':' :: value.toList := by
      simp
    rw [splitHash, spelled, List.span_eq_takeWhile_dropWhile,
      List.takeWhile_append_of_pos passed, List.dropWhile_append_of_pos passed]
    simp
  | bare no_colon =>
    have nothing_left := List.dropWhile_eq_nil_iff.mpr (all_ne_of_not_mem no_colon)
    rw [splitHash, List.span_eq_takeWhile_dropWhile, nothing_left]

theorem divides_splitHash (hash : String) :
    Divides hash (splitHash hash).1 (splitHash hash).2 := by
  have joined := List.takeWhile_append_dropWhile (p := (· ≠ ':')) (l := hash.toList)
  rw [splitHash, List.span_eq_takeWhile_dropWhile]
  split
  case h_1 front character back split_eq =>
    obtain ⟨front_eq, back_eq⟩ := Prod.mk.inj split_eq
    have front_passed : ':' ∉ front := by
      intro listed
      have passed := List.mem_takeWhile_imp (front_eq ▸ listed)
      simp at passed
    have is_colon : character = ':' := by
      have stopped := List.head?_dropWhile_not (· ≠ ':') hash.toList
      rw [back_eq] at stopped
      simpa using stopped
    have hash_eq : hash = String.ofList front ++ ":" ++ String.ofList back := by
      rw [← String.toList_inj, ← joined, front_eq, back_eq, is_colon]
      simp
    have no_colon : ':' ∉ (String.ofList front).toList := by simpa using front_passed
    have divides := Divides.named no_colon (String.ofList back)
    rwa [← hash_eq] at divides
  case h_2 front split_eq =>
    have nothing_left := (Prod.mk.inj split_eq).2
    refine .bare fun listed => ?_
    have passed := List.dropWhile_eq_nil_iff.mp nothing_left ':' listed
    simp at passed

theorem splitHash_eq_iff {hash algorithm value : String} :
    splitHash hash = (algorithm, value) ↔ Divides hash algorithm value := by
  refine ⟨fun split => ?_, Divides.splitHash_eq⟩
  have divides := divides_splitHash hash
  rwa [split] at divides

end EntryFactory

/-- An artifact of which a signature can be recorded, when its digest is spelled by `value`. -/
structure Artifact.IsSigned (artifact : Artifact) (value : String) : Prop where
  format : artifact.inCertificateFormat = true
  signature : artifact.signature ≠ []
  oneKey : ∃ publicKey, artifact.publicKeys = [publicKey]
  filled : value ≠ ""
  hexadecimal : Hex.IsHexadecimal value

/-- Why no signature of an artifact can be recorded: the first rule that it breaks. -/
inductive Artifact.IsUnsigned (artifact : Artifact) (value : String) : EntryFault → Prop
  | keyFormat (other : artifact.inCertificateFormat = false) :
    IsUnsigned artifact value .keyFormat
  | emptySignature (format : artifact.inCertificateFormat = true)
    (empty : artifact.signature = []) : IsUnsigned artifact value .emptySignature
  | keyCount (format : artifact.inCertificateFormat = true) (signature : artifact.signature ≠ [])
    (not_one : ∀ publicKey, artifact.publicKeys ≠ [publicKey]) :
    IsUnsigned artifact value .keyCount
  | hash (format : artifact.inCertificateFormat = true) (signature : artifact.signature ≠ [])
    {publicKey : Bytes} (oneKey : artifact.publicKeys = [publicKey])
    (no_digest : value = "" ∨ ¬Hex.IsHexadecimal value) :
    IsUnsigned artifact value (.hash artifact.hash)

namespace EntryFactory

variable {artifact : Artifact} {algorithm value : String}

/-- The entry for a signature over a digest. -/
def entryOfDigest (algorithm : String) (digest signature publicKey : Bytes) : HashedEntry where
  apiVersion := apiVersion
  kind := EntryKind.hashed.name
  algorithm := algorithm
  value := Hex.encode digest
  signature := Base64.encode signature
  publicKey := Base64.encode publicKey

theorem decode_ne_nil_iff {digest : Bytes} (read : Hex.decode value = .ok digest) :
    digest ≠ [] ↔ value ≠ "" := by
  have length_eq := Hex.length_eq_of_decode read
  rw [← List.length_pos_iff, ne_eq, ← String.toList_eq_nil_iff, ← List.length_eq_zero_iff,
    String.length_toList]
  omega

/-- The entry for a signed artifact hangs on its key and its digest. -/
theorem hashedEntry_of_signature (format : artifact.inCertificateFormat = true)
    (signature : artifact.signature ≠ []) :
    hashedEntry artifact =
      match artifact.publicKeys with
      | [publicKey] =>
        match Hex.decode (splitHash artifact.hash).2 with
        | .ok (first :: rest) =>
          .ok { entryOfDigest (splitHash artifact.hash).1 (first :: rest) artifact.signature
            publicKey with value := (splitHash artifact.hash).2.toLower }
        | _ => .error (.hash artifact.hash)
      | _ => .error .keyCount := by
  have signed : artifact.signature.isEmpty = false := by simpa using signature
  rw [hashedEntry, format, signed]
  generalize splitHash artifact.hash = divided
  rfl

theorem hashedEntry_of_digest (divides : Divides artifact.hash algorithm value)
    (format : artifact.inCertificateFormat = true) (signature : artifact.signature ≠ [])
    {publicKey digest : Bytes} (oneKey : artifact.publicKeys = [publicKey])
    (read : Hex.decode value = .ok digest) (filled : value ≠ "") :
    hashedEntry artifact =
      .ok (entryOfDigest algorithm digest artifact.signature publicKey) := by
  obtain ⟨first, rest, rfl⟩ :=
    List.exists_cons_of_ne_nil ((decode_ne_nil_iff read).mpr filled)
  rw [hashedEntry_of_signature format signature, oneKey, divides.splitHash_eq]
  dsimp only
  rw [read]
  dsimp only
  rw [← (Hex.decode_eq_ok_iff.mp read).2]
  rfl

theorem hashedEntry_of_isUnsigned (divides : Divides artifact.hash algorithm value)
    {fault : EntryFault} (unsigned : artifact.IsUnsigned value fault) :
    hashedEntry artifact = .error fault := by
  cases unsigned with
  | keyFormat other =>
    rw [hashedEntry, other]
    rfl
  | emptySignature format empty =>
    rw [hashedEntry, format, empty]
    rfl
  | keyCount format signature not_one =>
    rw [hashedEntry_of_signature format signature]
    split
    case h_1 one => exact absurd one (not_one _)
    case h_2 => rfl
  | hash format signature oneKey no_digest =>
    rw [hashedEntry_of_signature format signature, oneKey, divides.splitHash_eq]
    dsimp only
    split
    case h_1 first rest read =>
      have filled := (decode_ne_nil_iff read).mp (List.cons_ne_nil first rest)
      have hexadecimal := (Hex.decode_eq_ok_iff.mp read).1
      exact absurd no_digest (not_or.mpr ⟨filled, not_not.mpr hexadecimal⟩)
    case h_2 => rfl

theorem isSigned_or_isUnsigned (artifact : Artifact) (value : String) :
    artifact.IsSigned value ∨ ∃ fault, artifact.IsUnsigned value fault := by
  rcases Bool.eq_false_or_eq_true artifact.inCertificateFormat with format | other
  case inr => exact .inr ⟨_, .keyFormat other⟩
  by_cases empty : artifact.signature = []
  · exact .inr ⟨_, .emptySignature format empty⟩
  by_cases oneKey : ∃ publicKey, artifact.publicKeys = [publicKey]
  case neg => exact .inr ⟨_, .keyCount format empty (not_exists.mp oneKey)⟩
  by_cases no_digest : value = "" ∨ ¬Hex.IsHexadecimal value
  · obtain ⟨publicKey, keys_eq⟩ := oneKey
    exact .inr ⟨_, .hash format empty keys_eq no_digest⟩
  · rw [not_or, not_not] at no_digest
    exact .inl ⟨format, empty, oneKey, no_digest.1, no_digest.2⟩

/-- A signature that can be recorded has an entry, made of the key and the digest. -/
theorem exists_hashedEntry_of_isSigned (divides : Divides artifact.hash algorithm value)
    (signed : artifact.IsSigned value) :
    ∃ publicKey digest, artifact.publicKeys = [publicKey] ∧ Hex.decode value = .ok digest ∧
      hashedEntry artifact =
        .ok (entryOfDigest algorithm digest artifact.signature publicKey) := by
  obtain ⟨publicKey, oneKey⟩ := signed.oneKey
  obtain ⟨digest, read⟩ := Hex.exists_decode_eq_ok_iff.mpr signed.hexadecimal
  exact ⟨publicKey, digest, oneKey, read,
    hashedEntry_of_digest divides signed.format signed.signature oneKey read signed.filled⟩

end EntryFactory

/-- An entry that spells what an artifact gives in its normal form. -/
structure HashedEntry.IsNormal (entry : HashedEntry) (artifact : Artifact)
    (algorithm value : String) : Prop where
  apiVersion_eq : entry.apiVersion = "0.0.1"
  kind_eq : entry.kind = "hashedrekord"
  algorithm_eq : entry.algorithm = algorithm
  value_eq : entry.value = value.toLower
  digest_eq : ∃ digest, Hex.decode value = .ok digest ∧ entry.value = Hex.encode digest
  signature_eq : Base64.decode entry.signature = some artifact.signature
  publicKey_eq : artifact.publicKeys.map some = [Base64.decode entry.publicKey]

namespace EntryFactory

variable {artifact : Artifact} {algorithm value : String}

theorem isNormal_entryOfDigest {publicKey digest : Bytes}
    (oneKey : artifact.publicKeys = [publicKey]) (read : Hex.decode value = .ok digest) :
    (entryOfDigest algorithm digest artifact.signature publicKey).IsNormal artifact algorithm
      value where
  apiVersion_eq := rfl
  kind_eq := rfl
  algorithm_eq := rfl
  value_eq := (Hex.decode_eq_ok_iff.mp read).2
  digest_eq := ⟨digest, read, rfl⟩
  signature_eq := Base64.decode_encode _
  publicKey_eq := by rw [oneKey, entryOfDigest, Base64.decode_encode, List.map_singleton]

/-- The same entry is made again of the normal form of its hash. -/
theorem hashedEntry_of_normal_hash (divides : Divides artifact.hash algorithm value)
    (signed : artifact.IsSigned value) {publicKey digest : Bytes}
    (oneKey : artifact.publicKeys = [publicKey]) (read : Hex.decode value = .ok digest) :
    hashedEntry { artifact with hash := algorithm ++ ":" ++ Hex.encode digest } =
      .ok (entryOfDigest algorithm digest artifact.signature publicKey) := by
  have filled : Hex.encode digest ≠ "" :=
    (decode_ne_nil_iff (Hex.decode_encode digest)).mp ((decode_ne_nil_iff read).mpr signed.filled)
  let normal : Artifact := { artifact with hash := algorithm ++ ":" ++ Hex.encode digest }
  have normal_divides : Divides normal.hash algorithm (Hex.encode digest) :=
    .named divides.no_colon _
  exact hashedEntry_of_digest normal_divides signed.format signed.signature oneKey
    (Hex.decode_encode digest) filled

theorem standard_hashed_of_ok {entry : HashedEntry} (made : hashedEntry artifact = .ok entry) :
    standard .hashed artifact = .ok (.hashed entry) := by
  rw [standard, made]
  rfl

theorem standard_hashed_of_error {fault : EntryFault}
    (failed : hashedEntry artifact = .error fault) :
    standard .hashed artifact = .error fault := by
  rw [standard, failed]
  rfl

/-- A hash is divided in one way.  The usual maker of entries makes an entry for a signature of
exactly the artifacts that can be recorded so, and names the first rule that any other breaks.  The
entry is in normal form, and the artifact whose hash is in normal form has the same entry. -/
theorem normalizes (artifact : Artifact) :
    ∃ algorithm value,
      (∀ other otherValue, Divides artifact.hash other otherValue ↔
        other = algorithm ∧ otherValue = value) ∧
      ((∃ entry, standard .hashed artifact = .ok entry) ↔ artifact.IsSigned value) ∧
      (∀ fault, standard .hashed artifact = .error fault ↔ artifact.IsUnsigned value fault) ∧
      ∀ entry, standard .hashed artifact = .ok entry →
        ∃ hashed, entry = .hashed hashed ∧ hashed.IsNormal artifact algorithm value ∧
          standard .hashed { artifact with hash := hashed.algorithm ++ ":" ++ hashed.value } =
            .ok entry := by
  have divides := divides_splitHash artifact.hash
  obtain ⟨accepts, refuses⟩ :=
    Outcome.decided (isSigned_or_isUnsigned artifact (splitHash artifact.hash).2)
      (fun signed => by
        obtain ⟨publicKey, digest, -, -, made⟩ := exists_hashedEntry_of_isSigned divides signed
        exact ⟨_, standard_hashed_of_ok made⟩)
      (fun _ unsigned => standard_hashed_of_error (hashedEntry_of_isUnsigned divides unsigned))
  refine ⟨(splitHash artifact.hash).1, (splitHash artifact.hash).2, ?one_way, accepts, refuses,
    fun entry made => ?normal⟩
  case one_way =>
    intro other otherValue
    rw [← splitHash_eq_iff, Prod.ext_iff, eq_comm (b := other), eq_comm (b := otherValue)]
  case normal =>
    have signed := accepts.mp ⟨entry, made⟩
    obtain ⟨publicKey, digest, oneKey, read, hashed_made⟩ :=
      exists_hashedEntry_of_isSigned divides signed
    cases made.symm.trans (standard_hashed_of_ok hashed_made)
    exact ⟨_, rfl, isNormal_entryOfDigest oneKey read,
      standard_hashed_of_ok (hashedEntry_of_normal_hash divides signed oneKey read)⟩

end EntryFactory
end Countersign
