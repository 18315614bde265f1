import Countersign.Proofs.Key.Extraction
import Countersign.Signature.KeyPair
import Countersign.Trust.Log

/-!
# The encodings of a key

The encoding of a public key is read back as that key, for every key that is short enough, and fits
the scheme of its kind and no other.  Conversely an encoding that is read as a key is determined by
the key and the parameters of the algorithm.  Of the parameters only the content of a curve's
identifier is judged, so that a key has more than one encoding, of which one has the usual
parameters.
-/

namespace Countersign

open Der

namespace KeyPairKind

/-- The family of the public keys of a kind. -/
def keyType : KeyPairKind → KeyType
  | ecdsa curve => .ecdsa curve
  | ed25519 => .ed25519

/-- What a public key of a kind says about itself. -/
def info (kind : KeyPairKind) (raw : Bytes) : KeyInfo :=
  ⟨kind.keyType, raw, none⟩

/-- The greatest number of bytes of a public key of a kind.  The key and what it is put into take a
tag and five bytes for the length each, and the number of unused bits takes one. -/
def capacity (kind : KeyPairKind) : Nat :=
  maxSize - (kind.algorithm.encode.length + 13)

theorem length_algorithm_le (kind : KeyPairKind) : kind.algorithm.encode.length ≤ 21 := by
  cases kind with
  | ecdsa curve => cases curve <;> decide
  | ed25519 => decide

/-- The number of bytes in an encoding after its length. -/
def contentSize (kind : KeyPairKind) (raw : Bytes) : Nat :=
  kind.algorithm.encode.length +
    ((lengthBytes (raw.length + 1)).length + (raw.length + 1) + 1)

theorem length_publicKeyDer (kind : KeyPairKind) (raw : Bytes) :
    (kind.publicKeyDer raw).length =
      (lengthBytes (kind.contentSize raw)).length + kind.contentSize raw + 1 := by
  have content : (kind.algorithm.encode ++ BitString.encode ⟨0, raw⟩).length =
      kind.contentSize raw := by
    rw [List.length_append, BitString.encode, Element.length_encode, List.length_cons, contentSize]
  rw [publicKeyDer, Spki.encode, Element.length_encode, content]

/-- A key has an encoding exactly when it is short enough. -/
theorem length_publicKeyDer_le_iff {kind : KeyPairKind} {raw : Bytes} :
    (kind.publicKeyDer raw).length ≤ maxSize ↔ raw.length ≤ kind.capacity := by
  have algorithm_le := kind.length_algorithm_le
  have limit : maxSize = 0xFFFFFFF := rfl
  have content := contentSize.eq_1 kind raw
  rw [length_publicKeyDer, capacity]
  constructor
  · intro fits
    -- A key beyond the limit takes more than three bytes for its length, and so does all around it.
    by_contra long
    have key : ¬(lengthBytes (raw.length + 1)).length ≤ 3 + 1 := by
      rw [length_lengthBytes_le_iff (by omega)]
      omega
    have whole : ¬(lengthBytes (kind.contentSize raw)).length ≤ 3 + 1 := by
      rw [length_lengthBytes_le_iff (by omega)]
      omega
    omega
  · intro short
    have key : (lengthBytes (raw.length + 1)).length ≤ 4 + 1 :=
      (length_lengthBytes_le_iff (by omega)).mpr (by omega)
    have whole : (lengthBytes (kind.contentSize raw)).length ≤ 4 + 1 :=
      (length_lengthBytes_le_iff (by omega)).mpr (by omega)
    omega

example : (KeyPairKind.ecdsa .p256).capacity = 268435421 := by decide

/-- Whether a key whose algorithm has given parameters is of a kind: the content of the parameters
is the identifier of the curve, and for Ed25519 they do not matter. -/
def admits : KeyPairKind → Option Element → Bool
  | ecdsa curve, some parameters => parameters.content = curve.oid.content
  | ecdsa _, none => false
  | ed25519, _ => true

theorem admits_parameters (kind : KeyPairKind) :
    kind.admits kind.algorithm.parameters? = true := by
  cases kind <;> simp [admits, algorithm]

end KeyPairKind

theorem Curve.ofOid_eq_ok_iff {oid : Oid} {curve : Curve} :
    Curve.ofOid oid = .ok curve ↔ oid = curve.oid := by
  constructor
  · intro found
    unfold Curve.ofOid at found
    split at found
    · cases found
      assumption
    · split at found
      · cases found
        assumption
      · split at found
        · cases found
          assumption
        · cases found
  · rintro rfl
    cases curve <;> decide

theorem Curve.isPath_oid (curve : Curve) : (Oid.arcs? curve.oid.content).isSome = true := by
  cases curve <;> decide

namespace KeyType

private theorem ecPublicKey_ne_ed25519 : Oid.ecPublicKey ≠ Oid.ed25519 := by decide

/-- The curve is the one whose identifier is the content of the parameters. -/
theorem ofAlgorithm_ecPublicKey_eq_ok_iff {parameters? : Option Element} {keyType : KeyType} :
    ofAlgorithm ⟨Oid.ecPublicKey, parameters?⟩ = .ok keyType ↔
      ∃ curve, keyType = .ecdsa curve ∧
        (KeyPairKind.ecdsa curve).admits parameters? = true := by
  have not_rsa : Oid.ecPublicKey ≠ Oid.rsaEncryption := by decide
  rw [ofAlgorithm, if_neg ecPublicKey_ne_ed25519, if_neg not_rsa, if_pos rfl]
  cases parameters? with
  | none => simp [KeyPairKind.admits]
  | some parameters =>
    simp only [KeyPairKind.admits, decide_eq_true_eq]
    constructor
    · intro named
      split at named
      · cases named
      · rename_i oid content
        obtain ⟨content_eq, -⟩ := Oid.ofContent?_eq_some_iff.mp content
        obtain ⟨curve, found, rfl⟩ := Outcome.map_eq_ok_iff.mp named
        exact ⟨curve, rfl, by rw [content_eq, Curve.ofOid_eq_ok_iff.mp found]⟩
    · rintro ⟨curve, rfl, content_eq⟩
      have content : Oid.ofContent? parameters.content = some curve.oid :=
        Oid.ofContent?_eq_some_iff.mpr ⟨content_eq, curve.isPath_oid⟩
      simp only [content]
      exact Outcome.map_eq_ok_iff.mpr ⟨curve, Curve.ofOid_eq_ok_iff.mpr rfl, rfl⟩

/-- An algorithm names a kind of key by its identifier and, for a curve, by the parameters. -/
theorem ofAlgorithm_eq_ok_iff {algorithm : AlgorithmIdentifier} {kind : KeyPairKind} :
    ofAlgorithm algorithm = .ok kind.keyType ↔
      algorithm.oid = kind.algorithm.oid ∧ kind.admits algorithm.parameters? = true := by
  obtain ⟨oid, parameters?⟩ := algorithm
  by_cases curved : oid = Oid.ecPublicKey
  · subst curved
    rw [ofAlgorithm_ecPublicKey_eq_ok_iff]
    cases kind with
    | ecdsa curve => simp [KeyPairKind.keyType, KeyPairKind.algorithm]
    | ed25519 =>
      simp [KeyPairKind.keyType, KeyPairKind.algorithm, ecPublicKey_ne_ed25519]
  · have plain : ofAlgorithm ⟨oid, parameters?⟩ = .ok kind.keyType ↔
        oid = Oid.ed25519 ∧ kind = .ed25519 := by
      rw [ofAlgorithm]
      split
      · cases kind <;> simp_all [KeyPairKind.keyType]
      · split
        · cases kind <;> simp_all [KeyPairKind.keyType]
        · simp_all
    rw [plain]
    cases kind with
    | ecdsa curve => simp [KeyPairKind.algorithm, curved]
    | ed25519 => simp [KeyPairKind.algorithm, KeyPairKind.admits]

end KeyType

namespace KeyPairKind

/-- A byte string that encodes a public key of a kind with given parameters of its algorithm. -/
structure Encodes (kind : KeyPairKind) (parameters? : Option Element) (raw der : Bytes) : Prop where
  /-- The algorithm and the key are encoded. -/
  encoded : der = Spki.encode ⟨⟨kind.algorithm.oid, parameters?⟩, ⟨0, raw⟩⟩
  /-- The parameters leave the key of its kind. -/
  admitted : kind.admits parameters? = true
  /-- The parameters are of a known type. -/
  known : ∀ parameters, parameters? = some parameters → Tag.isKnown parameters.tag = true
  /-- The encoding is short enough. -/
  fits : der.length ≤ maxSize

theorem isPath_oid (kind : KeyPairKind) : (Oid.arcs? kind.algorithm.oid.content).isSome = true := by
  cases kind <;> rfl

theorem encodes_publicKeyDer_iff {kind : KeyPairKind} {raw : Bytes} :
    kind.Encodes kind.algorithm.parameters? raw (kind.publicKeyDer raw) ↔
      raw.length ≤ kind.capacity := by
  rw [← length_publicKeyDer_le_iff]
  refine ⟨Encodes.fits, fun fits => ⟨rfl, kind.admits_parameters, ?_, fits⟩⟩
  cases kind with
  | ecdsa curve =>
    rintro parameters given
    cases given
    rfl
  | ed25519 => exact nofun

namespace Encodes

variable {kind : KeyPairKind} {parameters? other? : Option Element} {raw der other : Bytes}

theorem ofDer? (encodes : kind.Encodes parameters? raw der) :
    Spki.ofDer? der = some ⟨⟨kind.algorithm.oid, parameters?⟩, ⟨0, raw⟩⟩ := by
  obtain ⟨rfl, -, known, fits⟩ := encodes
  exact Spki.ofDer?_eq_some_iff.mpr
    ⟨rfl, Spki.isEncodable_of_length_le kind.isPath_oid known rfl fits, fits⟩

/-- Encodings of one key are the same when their parameters are. -/
theorem eq_iff (encodes : kind.Encodes parameters? raw der)
    (other_encodes : kind.Encodes other? raw other) : der = other ↔ parameters? = other? := by
  constructor
  · rintro rfl
    cases encodes.ofDer?.symm.trans other_encodes.ofDer?
    rfl
  · rintro rfl
    rw [encodes.encoded, other_encodes.encoded]

end Encodes
end KeyPairKind

namespace KeyInfo

/-- A byte string is read as a public key of a kind when it encodes the key with parameters that
leave it of its kind. -/
theorem ofDer_eq_ok_iff {kind : KeyPairKind} {raw der : Bytes} :
    ofDer der = .ok (kind.info raw) ↔ ∃ parameters?, kind.Encodes parameters? raw der := by
  constructor
  · intro taken
    obtain ⟨⟨⟨oid, parameters?⟩, key⟩, decoded, typed, rfl⟩ := ofDer_eq_ok taken
    obtain ⟨rfl, encodable, fits⟩ := Spki.ofDer?_eq_some_iff.mp decoded
    obtain ⟨rfl, admitted⟩ := KeyType.ofAlgorithm_eq_ok_iff.mp typed
    exact ⟨parameters?, rfl, admitted,
      fun parameters given => (encodable.algorithm.parameters parameters given).1, fits⟩
  · rintro ⟨parameters?, encodes⟩
    have typed : KeyType.ofAlgorithm ⟨kind.algorithm.oid, parameters?⟩ = .ok kind.keyType :=
      KeyType.ofAlgorithm_eq_ok_iff.mpr ⟨rfl, encodes.admitted⟩
    rw [ofDer, encodes.ofDer?]
    change ofSpki _ = _
    rw [ofSpki, typed]
    cases kind <;> rfl

/-- A key of a kind tells no size of a modulus. -/
theorem eq_info {kind : KeyPairKind} {der : Bytes} {info : KeyInfo} (taken : ofDer der = .ok info)
    (typed : info.keyType = kind.keyType) : info = kind.info info.raw := by
  have sized := modulusBits?_isSome_iff taken
  obtain ⟨keyType, raw, modulusBits?⟩ := info
  obtain rfl : keyType = kind.keyType := typed
  cases kind with
  | ecdsa curve =>
    obtain rfl : modulusBits? = none := by simpa [KeyPairKind.keyType] using sized
    rfl
  | ed25519 =>
    obtain rfl : modulusBits? = none := by simpa [KeyPairKind.keyType] using sized
    rfl

end KeyInfo

namespace KeyPairKind

theorem fits_iff {kind : KeyPairKind} {scheme : Scheme} :
    kind.keyType.fits scheme = true ↔ scheme = kind.scheme := by
  cases kind with
  | ecdsa curve => cases curve <;> cases scheme <;> decide
  | ed25519 => cases scheme <;> decide

theorem ofDer_publicKeyDer {kind : KeyPairKind} {raw : Bytes} (short : raw.length ≤ kind.capacity) :
    KeyInfo.ofDer (kind.publicKeyDer raw) = .ok (kind.info raw) :=
  KeyInfo.ofDer_eq_ok_iff.mpr ⟨_, encodes_publicKeyDer_iff.mpr short⟩

theorem ofDer_publicKeyDer_of_long {kind : KeyPairKind} {raw : Bytes}
    (long : ¬raw.length ≤ kind.capacity) :
    KeyInfo.ofDer (kind.publicKeyDer raw) = .error .malformedSpki := by
  have refused : Spki.ofDer? (kind.publicKeyDer raw) = none := by
    rw [Spki.ofDer?, Reader.encoding, if_neg (mt length_publicKeyDer_le_iff.mp long)]
  rw [KeyInfo.ofDer, refused]

/-- The encoding of a key of a kind is read as that key, and gives the key for the scheme of the
kind and for no other.  This holds of every key that an encoding can hold, which is those up to a
fixed length; a longer one is refused. -/
theorem publicKeyDer_recovers (kind : KeyPairKind) (raw : Bytes) :
    ((kind.publicKeyDer raw).length ≤ maxSize ↔ raw.length ≤ kind.capacity) ∧
    KeyInfo.ofDer (kind.publicKeyDer raw) =
      (if raw.length ≤ kind.capacity then .ok ⟨kind.keyType, raw, none⟩
        else .error .malformedSpki) ∧
    (KeyInfo.mk kind.keyType raw none).defaultScheme = kind.scheme ∧
    ∀ scheme, VerificationKey.ofSpki (kind.publicKeyDer raw) scheme =
      if raw.length ≤ kind.capacity then
        if scheme = kind.scheme then .ok ⟨raw, kind.scheme⟩
        else .error (.mismatch kind.keyType scheme)
      else .error .malformedSpki := by
  refine ⟨length_publicKeyDer_le_iff, ?info, ?scheme, fun scheme => ?bound⟩
  case scheme => cases kind <;> rfl
  case info =>
    split
    · rename_i short
      exact ofDer_publicKeyDer short
    · rename_i long
      exact ofDer_publicKeyDer_of_long long
  case bound =>
    rw [VerificationKey.ofSpki]
    split
    · rename_i short
      rw [ofDer_publicKeyDer short]
      change (if kind.keyType.fits scheme = true then _ else _) = _
      simp only [fits_iff]
      split
      · rename_i same
        rw [same]
        rfl
      · rfl
    · rename_i long
      rw [ofDer_publicKeyDer_of_long long]
      rfl

/-- The encodings that are read as a given key are one for each choice of the parameters that leaves
the key of its kind.  With the usual parameters there is one, which is the encoding that is written,
and logs with that encoding of the key have one identifier. -/
theorem encoding_up_to_parameters (kind : KeyPairKind) (raw : Bytes) :
    (∀ der info, (KeyInfo.ofDer der = .ok info ∧ info.keyType = kind.keyType ∧ info.raw = raw) ↔
      info = ⟨kind.keyType, raw, none⟩ ∧ ∃ parameters?, kind.Encodes parameters? raw der) ∧
    (∀ der parameters?, kind.Encodes parameters? raw der →
      (der = kind.publicKeyDer raw ↔ parameters? = kind.algorithm.parameters?) ∧
      ∀ other other?, kind.Encodes other? raw other → (der = other ↔ parameters? = other?)) ∧
    ∀ log other : TransparencyLog,
      kind.Encodes kind.algorithm.parameters? raw log.publicKey →
      kind.Encodes kind.algorithm.parameters? raw other.publicKey → log.id = other.id := by
  refine ⟨fun der info => ⟨?accepted, ?encoded⟩,
    fun der parameters? encodes => ⟨⟨?written, ?usual⟩, fun _ _ => encodes.eq_iff⟩, ?logs⟩
  case accepted =>
    rintro ⟨taken, typed, rfl⟩
    have info_eq := KeyInfo.eq_info taken typed
    rw [info_eq] at taken
    exact ⟨info_eq, KeyInfo.ofDer_eq_ok_iff.mp taken⟩
  case encoded =>
    rintro ⟨rfl, encoded⟩
    exact ⟨KeyInfo.ofDer_eq_ok_iff.mpr encoded, rfl, rfl⟩
  case written =>
    rintro rfl
    have short := length_publicKeyDer_le_iff.mp encodes.fits
    exact (encodes.eq_iff (encodes_publicKeyDer_iff.mpr short)).mp rfl
  case usual =>
    rintro rfl
    exact encodes.encoded
  case logs =>
    intro log other log_encodes other_encodes
    have same := (log_encodes.eq_iff other_encodes).mpr rfl
    rw [TransparencyLog.id, TransparencyLog.id, TransparencyLog.keyId, TransparencyLog.keyId, same]

private def sampleKey : Bytes :=
  (List.range 32).map UInt8.ofNat

/-- The sample key with null as the parameters of its algorithm. -/
private def nulledDer : Bytes :=
  Spki.encode ⟨⟨Oid.ed25519, some ⟨0x05, []⟩⟩, ⟨0, sampleKey⟩⟩

private def samplePoint : Bytes :=
  0x04 :: (List.range 64).map UInt8.ofNat

/-- The sample point with the identifier of its curve as an octet string. -/
private def octetsDer : Bytes :=
  Spki.encode
    ⟨⟨Oid.ecPublicKey, some ⟨Tag.octetString, Curve.p256.oid.content⟩⟩, ⟨0, samplePoint⟩⟩

/-- A key has more than one encoding: the parameters of an Ed25519 key are passed over, and those of
a key on a curve may be of any type.  The identifier of a log tells such encodings apart. -/
theorem several_encodings :
    (KeyInfo.ofDer nulledDer = .ok ⟨.ed25519, sampleKey, none⟩ ∧
      nulledDer ≠ KeyPairKind.ed25519.publicKeyDer sampleKey ∧
      sha256 nulledDer ≠ sha256 (KeyPairKind.ed25519.publicKeyDer sampleKey)) ∧
    KeyInfo.ofDer octetsDer = .ok ⟨.ecdsa .p256, samplePoint, none⟩ ∧
      octetsDer ≠ (KeyPairKind.ecdsa .p256).publicKeyDer samplePoint := by
  refine ⟨⟨?_, ?_, ?_⟩, ?_, ?_⟩ <;> decide +kernel

end KeyPairKind
end Countersign
