import Countersign.Proofs.Key.Extraction
import Countersign.Proofs.Trust.Persistence
import Countersign.Trust.Chain
import Countersign.Trust.Log

/-!
# What key details ask of a key

The name of a log's key details fixes the family of the key, the size of an RSA modulus and the
scheme.  A log has a verifier exactly when its key is of that kind, and then for that scheme and no
other.  A key that comes without key details is used with the usual scheme of its family.
-/

namespace Countersign

/-- What key details ask of a key. -/
structure KeyDemand where
  /-- The family of the key. -/
  keyType : KeyType
  /-- The size of the modulus of an RSA key, in bits. -/
  modulusBits? : Option Nat
  /-- The scheme that the key is used for. -/
  scheme : Scheme
  deriving DecidableEq, Repr

namespace KeyDemand

/-- What a supported name of key details asks of a key. -/
def ofName? : String → Option KeyDemand
  | "PKIX_RSA_PKCS1V15_2048_SHA256" => some ⟨.rsa, some 2048, .rsaPkcs1Sha256⟩
  | "PKIX_RSA_PKCS1V15_3072_SHA256" => some ⟨.rsa, some 3072, .rsaPkcs1Sha256⟩
  | "PKIX_RSA_PKCS1V15_4096_SHA256" => some ⟨.rsa, some 4096, .rsaPkcs1Sha256⟩
  | "PKIX_RSA_PSS_2048_SHA256" => some ⟨.rsa, some 2048, .rsaPssSha256⟩
  | "PKIX_RSA_PSS_3072_SHA256" => some ⟨.rsa, some 3072, .rsaPssSha256⟩
  | "PKIX_RSA_PSS_4096_SHA256" => some ⟨.rsa, some 4096, .rsaPssSha256⟩
  | "PKIX_ECDSA_P256_SHA_256" => some ⟨.ecdsa .p256, none, .ecdsaP256Sha256⟩
  | "PKIX_ECDSA_P384_SHA_384" => some ⟨.ecdsa .p384, none, .ecdsaP384Sha384⟩
  | "PKIX_ECDSA_P521_SHA_512" => some ⟨.ecdsa .p521, none, .ecdsaP521Sha512⟩
  | "PKIX_ED25519" => some ⟨.ed25519, none, .ed25519⟩
  | _ => none

/-- A key is of the family and, for RSA, of the size that is asked for. -/
structure IsMetBy (demand : KeyDemand) (info : KeyInfo) : Prop where
  keyType : info.keyType = demand.keyType
  modulusBits : info.modulusBits? = demand.modulusBits?

end KeyDemand

namespace AlgorithmDetails

/-- What an algorithm asks of a key, if there is a scheme for it. -/
def demand? (algorithm : AlgorithmDetails) : Option KeyDemand :=
  algorithm.scheme?.map fun scheme =>
    match algorithm.key with
    | .rsa modulusBits _ => ⟨.rsa, some modulusBits, scheme⟩
    | .ecdsa curve => ⟨.ecdsa curve, none, scheme⟩
    | .ed25519 _ => ⟨.ed25519, none, scheme⟩

end AlgorithmDetails

namespace KeyDetails

/-- What key details ask of a key, if they are supported. -/
def demand? (details : KeyDetails) : Option KeyDemand :=
  details.algorithm?.bind AlgorithmDetails.demand?

/-- A name declares no algorithm when it is none of the recognized ones. -/
theorem ofName_eq_other_iff {name : String} :
    (∃ kept, ofName name = other kept) ↔ name ∉ recognized.map KeyDetails.name := by
  rw [ofName]
  cases found : recognized.find? fun details => details.name = name with
  | none =>
    refine ⟨fun _ listed => ?_, fun _ => ⟨name, rfl⟩⟩
    obtain ⟨details, recognized, same⟩ := List.mem_map.mp listed
    exact absurd same (by simpa using List.find?_eq_none.mp found details recognized)
  | some details =>
    have listed := List.mem_of_find?_eq_some found
    have same : details.name = name := by simpa using List.find?_some found
    constructor
    · rintro ⟨kept, rfl⟩
      simp [recognized] at listed
    · intro unrecognized
      exact absurd (List.mem_map.mpr ⟨details, listed, same⟩) unrecognized

/-- The table of names and the algorithms behind them ask the same of a key. -/
theorem ofName?_eq (name : String) :
    KeyDemand.ofName? name = (ofName name).demand? := by
  have name_eq := name_ofName name
  cases declared : ofName name with
  | rsa padding size =>
    rw [← name_eq, declared]
    cases padding <;> cases size <;> rfl
  | ecdsa curve =>
    rw [← name_eq, declared]
    cases curve <;> rfl
  | ed25519 =>
    rw [← name_eq, declared]
    rfl
  | ed25519Prehashed =>
    rw [← name_eq, declared]
    rfl
  | other kept =>
    have unrecognized := ofName_eq_other_iff.mp ⟨kept, declared⟩
    unfold KeyDemand.ofName?
    split
    case h_11 => rfl
    all_goals exact absurd (by decide) unrecognized

theorem demand?_eq_none_iff {details : KeyDetails} :
    details.demand? = none ↔ details = ed25519Prehashed ∨ ∃ kept, details = other kept := by
  cases details with
  | rsa padding size => cases padding <;> simp [demand?, algorithm?, AlgorithmDetails.demand?,
      AlgorithmDetails.scheme?]
  | ecdsa curve => cases curve <;> simp [demand?, algorithm?, AlgorithmDetails.demand?,
      AlgorithmDetails.scheme?]
  | ed25519 => simp [demand?, algorithm?, AlgorithmDetails.demand?, AlgorithmDetails.scheme?]
  | ed25519Prehashed =>
    simp [demand?, algorithm?, AlgorithmDetails.demand?, AlgorithmDetails.scheme?]
  | other kept => simp [demand?, algorithm?]

/-- All recognized names but that of prehashed Ed25519 are supported. -/
theorem demand?_ofName_eq_none_iff {name : String} :
    (ofName name).demand? = none ↔
      name = "PKIX_ED25519_PH" ∨ name ∉ recognized.map KeyDetails.name := by
  rw [demand?_eq_none_iff, ofName_eq_other_iff]
  refine or_congr ⟨fun prehashed => ?_, ?_⟩ Iff.rfl
  · rw [← name_ofName name, prehashed]
    rfl
  · rintro rfl
    rfl

end KeyDetails

/-- The family of the keys that a scheme uses. -/
def Scheme.keyType : Scheme → KeyType
  | ecdsaP256Sha256 => .ecdsa .p256
  | ecdsaP384Sha384 => .ecdsa .p384
  | ecdsaP521Sha512 => .ecdsa .p521
  | ed25519 => .ed25519
  | rsaPssSha256 | rsaPkcs1Sha256 => .rsa

theorem KeyType.fits_iff {keyType : KeyType} {scheme : Scheme} :
    keyType.fits scheme = true ↔ keyType = scheme.keyType := by
  cases keyType with
  | rsa => cases scheme <;> decide
  | ecdsa curve => cases curve <;> cases scheme <;> decide
  | ed25519 => cases scheme <;> decide

namespace AlgorithmDetails

variable {algorithm : AlgorithmDetails} {demand : KeyDemand} {info : KeyInfo} {der : Bytes}

theorem scheme?_of_demand? (asked : algorithm.demand? = some demand) :
    algorithm.scheme? = some demand.scheme := by
  obtain ⟨scheme, scheme_eq, rfl⟩ := Option.map_eq_some_iff.mp asked
  rw [scheme_eq]
  split <;> rfl

/-- The family that an algorithm asks for is the one that its scheme uses. -/
theorem keyType_of_demand? (asked : algorithm.demand? = some demand) :
    demand.scheme.keyType = demand.keyType := by
  obtain ⟨key, hash⟩ := algorithm
  cases key with
  | rsa modulusBits padding => cases padding <;> cases hash <;> cases asked <;> rfl
  | ecdsa curve => cases curve <;> cases hash <;> cases asked <;> rfl
  | ed25519 prehashed => cases prehashed <;> cases hash <;> cases asked <;> rfl

theorem checkSize_eq_ok_iff (asked : algorithm.demand? = some demand)
    (taken : KeyInfo.ofDer der = .ok info) (same : info.keyType = demand.keyType) :
    algorithm.checkSize info = .ok () ↔ info.modulusBits? = demand.modulusBits? := by
  have sized := KeyInfo.modulusBits?_isSome_iff taken
  obtain ⟨scheme, -, rfl⟩ := Option.map_eq_some_iff.mp asked
  obtain ⟨key, hash⟩ := algorithm
  cases key with
  | rsa modulusBits padding =>
    obtain ⟨found, found_eq⟩ := Option.isSome_iff_exists.mp (sized.mpr same)
    simp [checkSize, found_eq]
  | ecdsa curve =>
    have unsized : info.modulusBits? = none := by simpa [same] using sized
    simp [checkSize, unsized]
  | ed25519 prehashed =>
    have unsized : info.modulusBits? = none := by simpa [same] using sized
    simp [checkSize, unsized]

/-- An algorithm accepts the keys that meet its demand, for its scheme. -/
theorem keyFor_eq_ok_iff (asked : algorithm.demand? = some demand) {key : VerificationKey} :
    algorithm.keyFor demand.scheme der = .ok key ↔
      ∃ info, KeyInfo.ofDer der = .ok info ∧ demand.IsMetBy info ∧
        key = ⟨info.raw, demand.scheme⟩ := by
  simp only [keyFor, VerificationKey.ofSpki, Outcome.bind_eq_ok_iff, Outcome.mapError_eq_ok_iff]
  constructor
  · rintro ⟨info, taken, _, sized, again, taken_again, bound⟩
    cases taken.symm.trans taken_again
    split at bound
    · rename_i fits
      cases bound
      have same := (KeyType.fits_iff.mp fits).trans (keyType_of_demand? asked)
      exact ⟨info, taken, ⟨same, (checkSize_eq_ok_iff asked taken same).mp sized⟩, rfl⟩
    · cases bound
  · rintro ⟨info, taken, met, rfl⟩
    have fits := KeyType.fits_iff.mpr (met.keyType.trans (keyType_of_demand? asked).symm)
    have sized := (checkSize_eq_ok_iff asked taken met.keyType).mpr met.modulusBits
    refine ⟨info, taken, (), sized, info, taken, ?_⟩
    rw [if_pos fits]
    rfl

end AlgorithmDetails

namespace TransparencyLog

variable {log : TransparencyLog} {demand : KeyDemand}

/-- Key details that are not supported give no verifier, whatever the key is. -/
theorem verifier_of_unsupported (unsupported : log.keyDetails.demand? = none) :
    ∃ fault, log.verifier = .error (.algorithm fault) := by
  cases known : log.keyDetails.algorithm? with
  | none =>
    have undeclared : log.keyDetails.algorithm =
        .error (.algorithm (.keyDetails log.keyDetails.name)) := by
      rw [KeyDetails.algorithm, known]
    exact ⟨_, Outcome.bind_eq_error_iff.mpr (.inl undeclared)⟩
  | some algorithm =>
    have declared : log.keyDetails.algorithm = .ok algorithm := by
      rw [KeyDetails.algorithm, known]
    rw [KeyDetails.demand?, known, Option.bind_some, AlgorithmDetails.demand?,
      Option.map_eq_none_iff] at unsupported
    have schemeless : algorithm.scheme = .error (.algorithm (.noScheme algorithm)) := by
      rw [AlgorithmDetails.scheme, unsupported]
    have keyless : algorithm.verificationKey log.publicKey (some log.id) =
        .error (.algorithm (.noScheme algorithm)) :=
      Outcome.bind_eq_error_iff.mpr (.inl schemeless)
    exact ⟨_, Outcome.bind_eq_error_iff.mpr
      (.inr ⟨algorithm, declared, Outcome.bind_eq_error_iff.mpr (.inl keyless)⟩)⟩

/-- Supported key details leave it to the key. -/
theorem verifier_of_supported (supported : log.keyDetails.demand? = some demand) :
    ∃ algorithm : AlgorithmDetails, algorithm.demand? = some demand ∧
      log.verifier = ((algorithm.keyFor demand.scheme log.publicKey).mapError
        (.key (some log.id))).map fun key => ⟨key, log.validity⟩ := by
  obtain ⟨algorithm, known, asked⟩ := Option.bind_eq_some_iff.mp supported
  have declared : log.keyDetails.algorithm = .ok algorithm := by
    rw [KeyDetails.algorithm, known]
  have scheme_eq : algorithm.scheme = .ok demand.scheme := by
    rw [AlgorithmDetails.scheme, AlgorithmDetails.scheme?_of_demand? asked]
  refine ⟨algorithm, asked, ?_⟩
  rw [verifier, declared]
  change algorithm.verificationKey log.publicKey (some log.id) >>= _ = _
  rw [AlgorithmDetails.verificationKey, scheme_eq]
  change (algorithm.keyFor demand.scheme log.publicKey).mapError _ >>= _ = _
  cases algorithm.keyFor demand.scheme log.publicKey <;> rfl

theorem verifier_eq_ok_iff (supported : log.keyDetails.demand? = some demand)
    {verifier : Verifier} :
    log.verifier = .ok verifier ↔
      ∃ info, KeyInfo.ofDer log.publicKey = .ok info ∧ demand.IsMetBy info ∧
        verifier = ⟨⟨info.raw, demand.scheme⟩, log.validity⟩ := by
  obtain ⟨algorithm, asked, verifier_eq⟩ := verifier_of_supported supported
  simp only [verifier_eq, Outcome.map_eq_ok_iff, Outcome.mapError_eq_ok_iff,
    AlgorithmDetails.keyFor_eq_ok_iff asked]
  constructor
  · rintro ⟨_, ⟨info, taken, met, rfl⟩, rfl⟩
    exact ⟨info, taken, met, rfl⟩
  · rintro ⟨info, taken, met, rfl⟩
    exact ⟨_, ⟨info, taken, met, rfl⟩, rfl⟩

theorem verifier_eq_error (supported : log.keyDetails.demand? = some demand)
    {error : TrustError} (failed : log.verifier = .error error) :
    ∃ fault, error = .key (some log.id) fault := by
  obtain ⟨algorithm, -, verifier_eq⟩ := verifier_of_supported supported
  rw [verifier_eq] at failed
  obtain ⟨fault, -, rfl⟩ := Outcome.mapError_eq_error_iff.mp (Outcome.map_eq_error_iff.mp failed)
  exact ⟨fault, rfl⟩

end TransparencyLog

/-- Bound to its usual scheme, a key is the one that a chain uses whose first certificate holds it.
-/
theorem VerificationKey.ofSpki_defaultScheme {der : Bytes} {info : KeyInfo}
    (taken : KeyInfo.ofDer der = .ok info) :
    ofSpki der info.defaultScheme = .ok ⟨info.raw, info.defaultScheme⟩ := by
  have fits : info.keyType.fits info.defaultScheme = true := by
    rw [KeyInfo.defaultScheme]
    cases info.keyType <;> simp [KeyType.fits, KeyType.defaultScheme, Scheme.isRsa]
  rw [ofSpki, taken]
  exact if_pos fits

namespace TransparencyLog

/-- A log with the key details of a given name has a verifier exactly when the name is supported and
the key is of the family and size that it asks for.  The verifier holds the key for the scheme of
that name.  Without key details, a key is used with the usual scheme of its family. -/
theorem no_algorithm_confusion (log : TransparencyLog) (name : String) :
    let declared : TransparencyLog := { log with keyDetails := .ofName name }
    (∀ verifier, declared.verifier = .ok verifier ↔
      ∃ demand info, KeyDemand.ofName? name = some demand ∧
        KeyInfo.ofDer log.publicKey = .ok info ∧ demand.IsMetBy info ∧
        verifier = ⟨⟨info.raw, demand.scheme⟩, log.validity⟩) ∧
    ((∃ fault, declared.verifier = .error (.algorithm fault)) ↔
      name = "PKIX_ED25519_PH" ∨ name ∉ KeyDetails.recognized.map KeyDetails.name) ∧
    (∀ error, declared.verifier = .error error →
      (∃ fault, error = .algorithm fault) ∨ ∃ fault, error = .key (some log.id) fault) ∧
    ∀ der info, KeyInfo.ofDer der = .ok info →
      ∃ key, VerificationKey.ofSpki der info.defaultScheme = .ok key ∧
        ∀ (chain : CertificateChain) (validity : ValidityPeriod),
          chain.first.certificate.publicKeyDer = der →
            chain.verifier validity = .ok ⟨key, validity⟩ := by
  intro declared
  have demand_eq : declared.keyDetails.demand? = KeyDemand.ofName? name :=
    (KeyDetails.ofName?_eq name).symm
  refine ⟨fun verifier => ?_, ?_, fun error failed => ?_, fun der info taken => ?_⟩
  · cases asked : KeyDemand.ofName? name with
    | none =>
      obtain ⟨fault, failed⟩ := verifier_of_unsupported (demand_eq.trans asked)
      simp [failed]
    | some demand => simp [verifier_eq_ok_iff (demand_eq.trans asked), declared]
  · rw [← KeyDetails.demand?_ofName_eq_none_iff, ← KeyDetails.ofName?_eq, ← demand_eq]
    refine ⟨?_, verifier_of_unsupported⟩
    rintro ⟨fault, failed⟩
    by_contra supported
    obtain ⟨demand, asked⟩ := Option.ne_none_iff_exists'.mp supported
    obtain ⟨_, impossible⟩ := verifier_eq_error asked failed
    cases impossible
  · cases asked : KeyDemand.ofName? name with
    | none =>
      obtain ⟨fault, failed'⟩ := verifier_of_unsupported (demand_eq.trans asked)
      cases failed.symm.trans failed'
      exact .inl ⟨fault, rfl⟩
    | some demand => exact .inr (verifier_eq_error (demand_eq.trans asked) failed)
  · refine ⟨_, VerificationKey.ofSpki_defaultScheme taken, ?_⟩
    rintro chain validity rfl
    rw [CertificateChain.verifier, taken]

end TransparencyLog
end Countersign
