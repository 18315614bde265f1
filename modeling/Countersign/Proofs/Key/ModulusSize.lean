import Mathlib.Data.Nat.Size
import Countersign.Key.Info
import Countersign.Proofs.Der.Integer

/-!
# The size of a modulus

An RSA public key is read from exactly one encoding, a sequence of two numbers and nothing else.
The size of its modulus is the number of binary digits of the first, and reckoning it from the
number of bytes and the zeros in front never leaves the range of words.
-/

namespace Countersign

open Der

/-! ## Binary digits -/

theorem byteBits_eq_size (byte : UInt8) : byteBits byte = byte.toNat.size := by
  rw [byteBits]
  split
  · rename_i zero
    rw [zero]
    rfl
  · rename_i nonzero
    have value_ne : byte.toNat ≠ 0 := fun zero => nonzero (UInt8.toNat_inj.mp zero)
    apply Nat.le_antisymm
    · exact Nat.lt_size.mpr ((Nat.le_log2 value_ne).mp le_rfl)
    · exact Nat.size_le.mpr ((Nat.log2_lt value_ne).mp (Nat.lt_succ_self _))

/-- Every byte after the first adds eight binary digits. -/
theorem size_toNatBE_cons {first : UInt8} (first_ne : first ≠ 0) (rest : Bytes) :
    (Bytes.toNatBE (first :: rest)).size = rest.length * 8 + first.toNat.size := by
  have power : 256 ^ rest.length = 2 ^ (rest.length * 8) := by
    rw [Nat.mul_comm, pow_mul]
    rfl
  have first_pos : 0 < first.toNat.size :=
    Nat.size_pos.mpr (Nat.pos_of_ne_zero fun zero => first_ne (UInt8.toNat_inj.mp zero))
  have rest_lt := Bytes.toNatBE_lt rest
  rw [Bytes.toNatBE_cons, power]
  rw [power] at rest_lt
  apply Nat.le_antisymm
  · rw [Nat.size_le, pow_add]
    calc
      first.toNat * 2 ^ (rest.length * 8) + Bytes.toNatBE rest
          < (first.toNat + 1) * 2 ^ (rest.length * 8) := by
            rw [Nat.add_mul, Nat.one_mul]
            omega
      _ ≤ 2 ^ first.toNat.size * 2 ^ (rest.length * 8) :=
        Nat.mul_le_mul_right _ (Nat.lt_size_self first.toNat)
      _ = 2 ^ (rest.length * 8) * 2 ^ first.toNat.size := Nat.mul_comm _ _
  · obtain ⟨less, size_eq⟩ := Nat.exists_eq_add_of_lt first_pos
    rw [Nat.zero_add] at size_eq
    have first_ge : 2 ^ less ≤ first.toNat := Nat.lt_size.mp (by omega)
    rw [size_eq, ← Nat.add_assoc, Nat.succ_le_iff, Nat.lt_size, pow_add]
    calc
      2 ^ (rest.length * 8) * 2 ^ less ≤ 2 ^ (rest.length * 8) * first.toNat :=
        Nat.mul_le_mul_left _ first_ge
      _ = first.toNat * 2 ^ (rest.length * 8) := Nat.mul_comm _ _
      _ ≤ first.toNat * 2 ^ (rest.length * 8) + Bytes.toNatBE rest := Nat.le_add_right _ _

theorem bitLength_digitsBE (value : Nat) : bitLength (Bytes.digitsBE value) = value.size := by
  rcases eq_zero_or_eq_toNatBE value with rfl | ⟨first, rest, first_ne, rfl⟩
  · rfl
  · rw [Bytes.digitsBE_toNatBE first_ne, bitLength, byteBits_eq_size, size_toNatBE_cons first_ne]

theorem toNat_leadingZeros (byte : UInt8) :
    byteBits byte ≤ 8 ∧ (leadingZeros byte).toNat = 8 - byteBits byte := by
  have all : ∀ number : Fin 256, byteBits (UInt8.ofNat number) ≤ 8 ∧
      (leadingZeros (UInt8.ofNat number)).toNat = 8 - byteBits (UInt8.ofNat number) := by
    decide +kernel
  have known := all ⟨byte.toNat, byte.toNat_lt⟩
  rwa [UInt8.ofNat_toNat] at known

/-- Reckoning the number of binary digits in words comes to what it is, if there are no more bytes
than an encoding has. -/
theorem exists_reckonedBitLength?_eq {digits : Bytes} (short : digits.length ≤ maxSize) :
    ∃ word, reckonedBitLength? digits = some word ∧ word.toNat = bitLength digits := by
  cases digits with
  | nil => exact ⟨0, rfl, rfl⟩
  | cons first rest =>
    obtain ⟨bits_le, zeros_eq⟩ := toNat_leadingZeros first
    have limit : maxSize = 0xFFFFFFF := rfl
    rw [List.length_cons] at short
    have length_eq : (UInt32.ofNat (first :: rest).length).toNat = rest.length + 1 :=
      UInt32.toNat_ofNat_of_lt' (by rw [UInt32.size]; simp; omega)
    have eights_eq : (UInt32.ofNat (first :: rest).length * 8).toNat = (rest.length + 1) * 8 := by
      rw [UInt32.toNat_mul, length_eq]
      exact Nat.mod_eq_of_lt (by simp; omega)
    have fits : (UInt32.ofNat (first :: rest).length).toNat * 8 < UInt32.size := by
      rw [length_eq, UInt32.size]
      omega
    have enough : leadingZeros first ≤ UInt32.ofNat (first :: rest).length * 8 := by
      rw [UInt32.le_iff_toNat_le, zeros_eq, eights_eq]
      omega
    refine ⟨_, if_pos ⟨fits, enough⟩, ?_⟩
    rw [UInt32.toNat_sub_of_le _ _ enough, eights_eq, zeros_eq, bitLength]
    omega

namespace RsaPublicKey

/-- A byte string that encodes an RSA public key: a sequence of two integers, each with its shortest
content and all lengths in their shortest spelling, and nothing behind any of them. -/
def Encodes (modulus exponent : Nat) (der : Bytes) : Prop :=
  ∃ first second, IsIntegerContent first modulus ∧ IsIntegerContent second exponent ∧
    der = Element.encode ⟨Tag.sequence,
      Element.encode ⟨Tag.integer, first⟩ ++ Element.encode ⟨Tag.integer, second⟩⟩

theorem encodes_iff {modulus exponent : Nat} {der : Bytes} :
    Encodes modulus exponent der ↔
      der = Element.encode ⟨Tag.sequence, encodeNat modulus ++ encodeNat exponent⟩ := by
  simp only [Encodes, isIntegerContent_iff, encodeNat_eq]
  constructor
  · rintro ⟨_, _, rfl, rfl, encoded⟩
    exact encoded
  · exact fun encoded => ⟨_, _, rfl, rfl, encoded⟩

/-- Every part of an encoding is shorter than the whole, so if the whole fits, no length in it is
out of range. -/
theorem Encodes.lengths_lt {modulus exponent : Nat} {der : Bytes}
    (encoded : Encodes modulus exponent der) :
    (encodeNat modulus ++ encodeNat exponent).length < der.length ∧
      (naturalContent modulus).length < der.length ∧
      (naturalContent exponent).length < der.length := by
  have numbers_lt := Element.length_content_lt
    ⟨Tag.sequence, encodeNat modulus ++ encodeNat exponent⟩
  rw [← encodes_iff.mp encoded] at numbers_lt
  have modulus_lt := length_naturalContent_lt modulus
  have exponent_lt := length_naturalContent_lt exponent
  rw [List.length_append] at numbers_lt ⊢
  exact ⟨numbers_lt, by omega, by omega⟩

/-- What is read of a key are the digits of the two numbers in its encoding. -/
theorem ofDer?_eq_some_iff {der : Bytes} {key : RsaPublicKey} :
    ofDer? der = some key ↔
      der.length ≤ maxSize ∧ ∃ modulus exponent, Encodes modulus exponent der ∧
        key = ⟨Bytes.digitsBE modulus, Bytes.digitsBE exponent⟩ := by
  simp only [ofDer?, Reader.encoding_eq_some_iff, reader, Reader.inside_eq_some_iff,
    Reader.bind_eq_some_iff, Reader.pure_eq_some_iff, unsignedReader_eq_some_iff, encodes_iff,
    List.append_nil]
  constructor
  · rintro ⟨⟨content, rfl, -, -, _, _, ⟨modulus, rfl, rfl, -⟩, _, _, ⟨exponent, rfl, rfl, -⟩, rfl,
      rfl⟩, fits⟩
    rw [List.append_nil] at fits ⊢
    exact ⟨fits, modulus, exponent, rfl, rfl⟩
  · rintro ⟨fits, modulus, exponent, rfl, rfl⟩
    have limit : maxSize < lengthLimit := by decide
    have encoded : Encodes modulus exponent _ := encodes_iff.mpr rfl
    obtain ⟨numbers_lt, modulus_lt, exponent_lt⟩ := encoded.lengths_lt
    refine ⟨⟨encodeNat modulus ++ encodeNat exponent, rfl, by decide, by omega, _, _,
      ⟨modulus, rfl, rfl, by omega⟩, _, [], ⟨exponent, ?_, rfl, by omega⟩, rfl, rfl⟩, fits⟩
    rw [List.append_nil]

theorem length_modulus_le {der : Bytes} {key : RsaPublicKey} (read : ofDer? der = some key) :
    key.modulus.length ≤ maxSize := by
  obtain ⟨fits, modulus, exponent, encoded, rfl⟩ := ofDer?_eq_some_iff.mp read
  calc
    (Bytes.digitsBE modulus).length ≤ (naturalContent modulus).length :=
      length_digitsBE_le_length_naturalContent modulus
    _ ≤ der.length := encoded.lengths_lt.2.1.le
    _ ≤ maxSize := fits

theorem modulusBits_eq_ok_iff {der : Bytes} {bits : Nat} :
    modulusBits der = .ok bits ↔ ∃ key, ofDer? der = some key ∧ bits = bitLength key.modulus := by
  rw [modulusBits]
  cases ofDer? der <;> simp [eq_comm]

theorem modulusBits_eq_error_iff {der : Bytes} {error : KeyError} :
    modulusBits der = .error error ↔ error = .malformedRsaKey ∧ ofDer? der = none := by
  rw [modulusBits]
  cases ofDer? der <;> simp [eq_comm]

/-- The size of the modulus is told of the encodings of two numbers that are not negative, and it is
the number of binary digits of the first; of all other byte strings it is told that they are no RSA
public keys.  Reckoned in words the size is the same: no step goes beyond what a word holds. -/
theorem modulusBits_counts_digits (der : Bytes) :
    (∀ bits, modulusBits der = .ok bits ↔
      der.length ≤ maxSize ∧
        ∃ modulus exponent : Nat, Encodes modulus exponent der ∧ bits = modulus.size) ∧
    (∀ error, modulusBits der = .error error ↔
      error = .malformedRsaKey ∧
        ¬(der.length ≤ maxSize ∧ ∃ modulus exponent : Nat, Encodes modulus exponent der)) ∧
    (∀ key, ofDer? der = some key →
      ∃ word, reckonedBitLength? key.modulus = some word ∧ modulusBits der = .ok word.toNat) := by
  refine ⟨fun bits => ?_, fun error => ?_, fun key read => ?_⟩
  · rw [modulusBits_eq_ok_iff]
    constructor
    · rintro ⟨key, read, rfl⟩
      obtain ⟨fits, modulus, exponent, encoded, rfl⟩ := ofDer?_eq_some_iff.mp read
      exact ⟨fits, modulus, exponent, encoded, bitLength_digitsBE modulus⟩
    · rintro ⟨fits, modulus, exponent, encoded, rfl⟩
      exact ⟨_, ofDer?_eq_some_iff.mpr ⟨fits, modulus, exponent, encoded, rfl⟩,
        (bitLength_digitsBE modulus).symm⟩
  · rw [modulusBits_eq_error_iff, Option.eq_none_iff_forall_ne_some]
    refine and_congr_right fun _ => ⟨?_, ?_⟩
    · rintro unread ⟨fits, modulus, exponent, encoded⟩
      exact unread _ (ofDer?_eq_some_iff.mpr ⟨fits, modulus, exponent, encoded, rfl⟩)
    · intro unencoded key read
      obtain ⟨fits, modulus, exponent, encoded, -⟩ := ofDer?_eq_some_iff.mp read
      exact unencoded ⟨fits, modulus, exponent, encoded⟩
  · obtain ⟨word, reckoned, word_eq⟩ := exists_reckonedBitLength?_eq (length_modulus_le read)
    exact ⟨word, reckoned, modulusBits_eq_ok_iff.mpr ⟨key, read, word_eq⟩⟩

/-- A modulus with its top bit set stands behind a zero byte, which counts for nothing. -/
theorem modulusBits_sixteen :
    let der : Bytes :=
      [0x30, 0x0A, 0x02, 0x03, 0x00, 0xC1, 0x11, 0x02, 0x03, 0x01, 0x00, 0x01]
    Encodes 0xC111 0x10001 der ∧ modulusBits der = .ok 16 ∧
      ∃ word, reckonedBitLength? [0xC1, 0x11] = some word ∧ modulusBits der = .ok word.toNat := by
  intro der
  have encoded : Encodes 0xC111 0x10001 der := encodes_iff.mpr (by decide)
  have fits : der.length ≤ maxSize := by decide
  have read : ofDer? der = some ⟨[0xC1, 0x11], [0x01, 0x00, 0x01]⟩ := by decide
  obtain ⟨told, -, reckoned⟩ := modulusBits_counts_digits der
  exact ⟨encoded, (told 16).mpr ⟨fits, 0xC111, 0x10001, encoded, by decide⟩, reckoned _ read⟩

end RsaPublicKey
end Countersign
