import Countersign.Proofs.Key.Extraction
import Countersign.Proofs.Trust.EntryTable
import Countersign.Trust.Resolver

/-!
# What an identifier resolves to

One entry decides: the one with the identifier in the first category that has any.  A verifier that
is built from it holds the key of that entry, the scheme that its key has, and its period; verifiers
that are kept from earlier questions change nothing of this.
-/

namespace Countersign

/-- An entry of any category. -/
inductive TrustEntry where
  | log (log : TransparencyLog)
  | authority (authority : Authority)

namespace TrustEntry

/-- The identifier of an entry. -/
def id : TrustEntry → String
  | .log entry => entry.id
  | .authority entry => entry.id

/-- The period of an entry. -/
def validity : TrustEntry → ValidityPeriod
  | .log entry => entry.validity
  | .authority entry => entry.validity

/-- The verifier of an entry. -/
def verifier : TrustEntry → Except TrustError Verifier
  | .log entry => entry.verifier
  | .authority entry => entry.verifier

/-- The public key of an entry: a log's own one, or that of the first certificate. -/
def publicKey? : TrustEntry → Option Spki
  | .log entry => Spki.ofDer? entry.publicKey
  | .authority entry => some entry.chain.first.certificate.publicKey

/-- The scheme that the name of a log's key details fixes. -/
def namedScheme? : String → Option Scheme
  | "PKIX_RSA_PKCS1V15_2048_SHA256" => some .rsaPkcs1Sha256
  | "PKIX_RSA_PKCS1V15_3072_SHA256" => some .rsaPkcs1Sha256
  | "PKIX_RSA_PKCS1V15_4096_SHA256" => some .rsaPkcs1Sha256
  | "PKIX_RSA_PSS_2048_SHA256" => some .rsaPssSha256
  | "PKIX_RSA_PSS_3072_SHA256" => some .rsaPssSha256
  | "PKIX_RSA_PSS_4096_SHA256" => some .rsaPssSha256
  | "PKIX_ECDSA_P256_SHA_256" => some .ecdsaP256Sha256
  | "PKIX_ECDSA_P384_SHA_384" => some .ecdsaP384Sha384
  | "PKIX_ECDSA_P521_SHA_512" => some .ecdsaP521Sha512
  | "PKIX_ED25519" => some .ed25519
  | _ => none

/-- The scheme that the family of a key fixes. -/
def familyScheme? (spki : Spki) : Option Scheme :=
  match KeyType.ofAlgorithm spki.algorithm with
  | .ok .rsa => some .rsaPkcs1Sha256
  | .ok (.ecdsa .p256) => some .ecdsaP256Sha256
  | .ok (.ecdsa .p384) => some .ecdsaP384Sha384
  | .ok (.ecdsa .p521) => some .ecdsaP521Sha512
  | .ok .ed25519 => some .ed25519
  | .error _ => none

/-- The scheme of an entry. -/
def scheme? : TrustEntry → Option Scheme
  | .log entry => namedScheme? entry.keyDetails.name
  | .authority entry => familyScheme? entry.chain.first.certificate.publicKey

/-- A verifier with the key, the scheme and the period of an entry. -/
structure Grants (entry : TrustEntry) (verifier : Verifier) : Prop where
  /-- The key fills the bit string of the entry's public key. -/
  key : entry.publicKey?.map (·.key) = some ⟨0, verifier.key.raw⟩
  /-- The scheme is that of the entry. -/
  scheme : entry.scheme? = some verifier.key.scheme
  /-- The key is trusted from the start of the entry's period to its end. -/
  isValidAt_iff : ∀ time, verifier.isValidAt time = true ↔
    (∀ start, entry.validity.start? = some start → ¬ time < start) ∧
      ∀ finish, entry.validity.finish? = some finish → ¬ finish < time

end TrustEntry

theorem ValidityPeriod.contains_iff {period : ValidityPeriod} {time : Instant} :
    period.contains time = true ↔
      (∀ start, period.start? = some start → ¬ time < start) ∧
        ∀ finish, period.finish? = some finish → ¬ finish < time := by
  rw [ValidityPeriod.contains, Bool.and_eq_true]
  simp only [Option.all_eq_true, decide_eq_true_eq]
  rfl

namespace TransparencyLog

private theorem namedScheme?_of_algorithm {details : KeyDetails} {algorithm : AlgorithmDetails}
    {scheme : Scheme} (declared : details.algorithm = .ok algorithm)
    (scheme_eq : algorithm.scheme? = some scheme) :
    TrustEntry.namedScheme? details.name = some scheme := by
  unfold KeyDetails.algorithm at declared
  split at declared
  · rename_i found
    cases declared
    rw [← scheme_eq]
    cases details with
    | rsa padding size => cases padding <;> cases size <;> cases found <;> rfl
    | ecdsa curve => cases curve <;> cases found <;> rfl
    | ed25519 =>
      cases found
      rfl
    | ed25519Prehashed =>
      cases found
      cases scheme_eq
    | other name => cases found
  · cases declared

theorem grants_of_verifier {log : TransparencyLog} {verifier : Verifier}
    (built : log.verifier = .ok verifier) : (TrustEntry.log log).Grants verifier := by
  obtain ⟨algorithm, declared, built⟩ := Outcome.bind_eq_ok_iff.mp built
  obtain ⟨key, key_built, done⟩ := Outcome.bind_eq_ok_iff.mp built
  cases done
  obtain ⟨scheme_eq, spki, decoded, key_eq⟩ := AlgorithmDetails.verificationKey_eq_ok key_built
  constructor
  case key => simp [TrustEntry.publicKey?, decoded, key_eq]
  case scheme => exact namedScheme?_of_algorithm declared scheme_eq
  case isValidAt_iff => exact fun time => ValidityPeriod.contains_iff

end TransparencyLog

namespace Authority

private theorem familyScheme?_of_keyType {spki : Spki} {keyType : KeyType}
    (typed : KeyType.ofAlgorithm spki.algorithm = .ok keyType) :
    TrustEntry.familyScheme? spki = some keyType.defaultScheme := by
  rw [TrustEntry.familyScheme?, typed]
  cases keyType with
  | rsa => rfl
  | ecdsa curve => cases curve <;> rfl
  | ed25519 => rfl

theorem grants_of_verifier {authority : Authority} {verifier : Verifier}
    (built : authority.verifier = .ok verifier) :
    (TrustEntry.authority authority).Grants verifier := by
  unfold Authority.verifier CertificateChain.verifier at built
  split at built
  · rename_i info taken
    cases built
    obtain ⟨spki, decoded, typed, key_eq⟩ := KeyInfo.ofDer_eq_ok taken
    rw [Certificate.ofDer?_publicKeyDer authority.chain.first.decodes] at decoded
    cases decoded
    constructor
    case key => simp [TrustEntry.publicKey?, key_eq]
    case scheme => exact familyScheme?_of_keyType typed
    case isValidAt_iff => exact fun time => ValidityPeriod.contains_iff
  · cases built

end Authority

/-- The key, the scheme and the period of a verifier are those of the entry it is built from. -/
theorem TrustEntry.grants_of_verifier {entry : TrustEntry} {verifier : Verifier}
    (built : entry.verifier = .ok verifier) : entry.Grants verifier := by
  cases entry with
  | log log => exact TransparencyLog.grants_of_verifier built
  | authority authority => exact Authority.grants_of_verifier built

namespace TrustAnchors

/-- The entries of every category, in the order in which the categories are asked. -/
def categories (anchors : TrustAnchors) : List (List TrustEntry) :=
  [anchors.logs.map .log, anchors.ctLogs.map .log,
    anchors.certificateAuthorities.map fun authority => .authority authority.toAuthority,
    anchors.timestampingAuthorities.map fun authority => .authority authority.toAuthority]

/-- An entry decides about an identifier if it has it and no entry of an earlier category does. -/
def Decides (anchors : TrustAnchors) (id : String) (entry : TrustEntry) : Prop :=
  ∃ before category after, anchors.categories = before ++ category :: after ∧
    (entry ∈ category ∧ entry.id = id) ∧ ∀ earlier ∈ before, ∀ other ∈ earlier, other.id ≠ id

/-- The entry that is found for an identifier. -/
def decider? (anchors : TrustAnchors) (id : String) : Option TrustEntry :=
  anchors.categories.findSome? fun category => category.find? fun entry => entry.id = id

theorem ids_nodup_of_mem_categories {anchors : TrustAnchors} {category : List TrustEntry}
    (member : category ∈ anchors.categories) : (category.map TrustEntry.id).Nodup := by
  simp only [categories, List.mem_cons, List.not_mem_nil, or_false] at member
  rcases member with rfl | rfl | rfl | rfl <;> rw [List.map_map]
  · exact anchors.logTable.ids_nodup
  · exact anchors.ctLogTable.ids_nodup
  · exact anchors.certificateAuthorityTable.ids_nodup
  · exact anchors.timestampingAuthorityTable.ids_nodup

theorem decider?_eq_some_iff {anchors : TrustAnchors} {id : String} {entry : TrustEntry} :
    anchors.decider? id = some entry ↔ anchors.Decides id entry := by
  simp only [decider?, List.findSome?_eq_some_iff, List.find?_eq_none, decide_eq_true_eq, Decides]
  constructor
  · rintro ⟨before, category, after, split, found, absent⟩
    have distinct := ids_nodup_of_mem_categories (split ▸ by simp : category ∈ anchors.categories)
    exact ⟨before, category, after, split,
      (EntryTable.list_find?_eq_some_iff distinct).mp found, absent⟩
  · rintro ⟨before, category, after, split, found, absent⟩
    have distinct := ids_nodup_of_mem_categories (split ▸ by simp : category ∈ anchors.categories)
    exact ⟨before, category, after, split,
      (EntryTable.list_find?_eq_some_iff distinct).mpr found, absent⟩

theorem decider?_eq_none_iff {anchors : TrustAnchors} {id : String} :
    anchors.decider? id = none ↔
      ∀ category ∈ anchors.categories, ∀ entry ∈ category, entry.id ≠ id := by
  simp [decider?, List.findSome?_eq_none_iff]

private theorem find?_map_entries {α : Type} {own : α → String} (table : EntryTable own)
    (make : α → TrustEntry) (same : ∀ entry, (make entry).id = own entry) (id : String) :
    ((table.entries.map make).find? fun entry => entry.id = id) = (table.find? id).map make := by
  rw [EntryTable.find?_eq_list_find?, List.find?_map]
  congr 2
  funext entry
  simp [same]

theorem decider?_eq (anchors : TrustAnchors) (id : String) :
    anchors.decider? id = (((anchors.log? id).map .log).or (((anchors.ctLog? id).map .log).or
      (((anchors.certificateAuthority? id).map (.authority ·.toAuthority)).or
        ((anchors.timestampingAuthority? id).map (.authority ·.toAuthority))))) := by
  simp only [decider?, categories, List.findSome?_cons, List.findSome?_nil, logs, ctLogs,
    certificateAuthorities, timestampingAuthorities]
  rw [find?_map_entries anchors.logTable .log fun _ => rfl,
    find?_map_entries anchors.ctLogTable .log fun _ => rfl,
    find?_map_entries anchors.certificateAuthorityTable (.authority ·.toAuthority) fun _ => rfl,
    find?_map_entries anchors.timestampingAuthorityTable (.authority ·.toAuthority) fun _ => rfl]
  simp only [log?, ctLog?, certificateAuthority?, timestampingAuthority?]
  cases anchors.logTable.find? id <;> cases anchors.ctLogTable.find? id <;>
    cases anchors.certificateAuthorityTable.find? id <;>
    cases anchors.timestampingAuthorityTable.find? id <;> rfl

/-- The verifier of an identifier is that of the entry that is found for it. -/
theorem verifier_eq (anchors : TrustAnchors) (id : String) :
    anchors.verifier id = match anchors.decider? id with
      | some entry => entry.verifier
      | none => .error (.keyNotFound id) := by
  rw [decider?_eq, verifier]
  cases anchors.log? id with
  | some log => rfl
  | none =>
    cases anchors.ctLog? id with
    | some log => rfl
    | none =>
      cases anchors.certificateAuthority? id with
      | some authority => rfl
      | none => cases anchors.timestampingAuthority? id <;> rfl

end TrustAnchors

namespace Resolver

/-- The resolver of trust anchors after a series of questions. -/
def after (anchors : TrustAnchors) (questions : List String) : Resolver :=
  questions.foldl (fun resolver id => (resolver.resolve id).2) ⟨anchors, []⟩

/-- A resolver of trust anchors that keeps only verifiers which the anchors give. -/
structure IsFaithful (resolver : Resolver) (anchors : TrustAnchors) : Prop where
  /-- The anchors are the given ones. -/
  anchors_eq : resolver.anchors = anchors
  /-- What is kept is what the anchors give. -/
  verifier_eq : ∀ id verifier, resolver.kept? id = some verifier →
    anchors.verifier id = .ok verifier

theorem IsFaithful.keep {resolver : Resolver} {anchors : TrustAnchors}
    (faithful : resolver.IsFaithful anchors) {id : String} {verifier : Verifier}
    (built : anchors.verifier id = .ok verifier) :
    (resolver.keep id verifier).IsFaithful anchors := by
  unfold Resolver.keep
  split
  · exact faithful
  · refine ⟨faithful.anchors_eq, fun other found other_kept => ?_⟩
    by_cases same : other = id
    · subst same
      simp only [kept?, List.lookup_cons_self, Option.some.injEq] at other_kept
      rw [← other_kept]
      exact built
    · have differs : (other == id) = false := by simpa using same
      simp only [kept?, List.lookup_cons, differs] at other_kept
      exact faithful.verifier_eq other found other_kept

/-- One question is answered as the anchors say, and leaves a faithful resolver. -/
theorem IsFaithful.resolve {resolver : Resolver} {anchors : TrustAnchors}
    (faithful : resolver.IsFaithful anchors) (id : String) :
    (resolver.resolve id).1 = anchors.verifier id ∧ (resolver.resolve id).2.IsFaithful anchors := by
  unfold Resolver.resolve
  split
  · rename_i verifier found
    exact ⟨(faithful.verifier_eq id verifier found).symm, faithful⟩
  · unfold Resolver.build
    rw [faithful.anchors_eq]
    split
    · rename_i verifier built
      exact ⟨built.symm, faithful.keep built⟩
    · rename_i error failed
      exact ⟨failed.symm, faithful⟩

private theorem IsFaithful.foldl {resolver : Resolver} {anchors : TrustAnchors}
    (faithful : resolver.IsFaithful anchors) (questions : List String) :
    (questions.foldl (fun resolver id => (resolver.resolve id).2) resolver).IsFaithful anchors := by
  induction questions generalizing resolver with
  | nil => exact faithful
  | cons id rest ih => exact ih (faithful.resolve id).2

theorem isFaithful_after (anchors : TrustAnchors) (questions : List String) :
    (after anchors questions).IsFaithful anchors :=
  IsFaithful.foldl ⟨rfl, fun _ _ found => by simp [kept?] at found⟩ questions

/-- What has been asked before does not change an answer. -/
theorem resolve_after (anchors : TrustAnchors) (questions : List String) (id : String) :
    ((after anchors questions).resolve id).1 = anchors.verifier id :=
  ((isFaithful_after anchors questions).resolve id).1

/-- Whatever has been asked before, exactly one entry decides about an identifier that any entry
has, and a verifier that is given has the key, the scheme and the period of that entry. -/
theorem resolution (anchors : TrustAnchors) (questions : List String) (id : String) :
    (∃ entry, anchors.Decides id entry ∧ (∀ other, anchors.Decides id other → other = entry) ∧
      ((after anchors questions).resolve id).1 = entry.verifier ∧
        ∀ verifier, ((after anchors questions).resolve id).1 = .ok verifier →
          entry.Grants verifier) ∨
      (∀ category ∈ anchors.categories, ∀ entry ∈ category, entry.id ≠ id) ∧
        ((after anchors questions).resolve id).1 = .error (.keyNotFound id) := by
  rw [((isFaithful_after anchors questions).resolve id).1, TrustAnchors.verifier_eq]
  cases found : anchors.decider? id with
  | some entry =>
    left
    refine ⟨entry, TrustAnchors.decider?_eq_some_iff.mp found, fun other decides => ?_, rfl,
      fun verifier built => TrustEntry.grants_of_verifier built⟩
    have other_found := TrustAnchors.decider?_eq_some_iff.mpr decides
    rw [found] at other_found
    cases other_found
    rfl
  | none => exact .inr ⟨TrustAnchors.decider?_eq_none_iff.mp found, rfl⟩

end Resolver
end Countersign
