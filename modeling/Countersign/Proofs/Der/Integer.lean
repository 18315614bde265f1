import Countersign.Der.Primitive
import Countersign.Proofs.Der.Element

/-!
# Integers have one encoding

The content of an integer is its shortest two's complement.  For a number that is not negative these
are its digits to the base 256, after a zero byte if the first digit has its top bit set; so the
digits are recovered from the content, and the number determines the encoding.
-/

namespace Countersign
namespace Der

/-- The integer that a byte string denotes in two's complement: with the top bit set it is
negative. -/
def twosComplement : Bytes → Int
  | [] => 0
  | first :: rest =>
    if first < 0x80 then Bytes.toNatBE (first :: rest)
    else Bytes.toNatBE (first :: rest) - 256 ^ (rest.length + 1)

/-- The content of an integer in an encoding: its two's complement in the fewest bytes. -/
structure IsIntegerContent (content : Bytes) (value : Int) : Prop where
  minimal : isMinimalInteger content = true
  denotes : twosComplement content = value

/-- The content of a number that is not negative: its digits, set apart from the negative numbers by
a zero byte if need be. -/
def naturalContent (value : Nat) : Bytes :=
  match Bytes.digitsBE value with
  | first :: rest => if first < 0x80 then first :: rest else 0x00 :: first :: rest
  | [] => [0x00]

theorem encodeNat_eq (value : Nat) :
    encodeNat value = Element.encode ⟨Tag.integer, naturalContent value⟩ := by
  rw [encodeNat, naturalContent]
  cases Bytes.digitsBE value <;> rfl

/-- The content of a number whose digits begin with a byte that is not zero. -/
theorem naturalContent_toNatBE {first : UInt8} {rest : Bytes} (first_ne : first ≠ 0) :
    naturalContent (Bytes.toNatBE (first :: rest)) =
      if first < 0x80 then first :: rest else 0x00 :: first :: rest := by
  rw [naturalContent, Bytes.digitsBE_toNatBE first_ne]

theorem length_digitsBE_le_length_naturalContent (value : Nat) :
    (Bytes.digitsBE value).length ≤ (naturalContent value).length := by
  rw [naturalContent]
  split
  · rename_i digits
    rw [digits]
    split <;> simp
  · rename_i digits
    rw [digits]
    simp

theorem length_naturalContent_lt (value : Nat) :
    (naturalContent value).length < (encodeNat value).length := by
  rw [encodeNat_eq]
  exact Element.length_content_lt ⟨Tag.integer, naturalContent value⟩

/-- A number is zero, or its digits begin with a byte that is not zero. -/
theorem eq_zero_or_eq_toNatBE (value : Nat) :
    value = 0 ∨ ∃ first rest, first ≠ 0 ∧ value = Bytes.toNatBE (first :: rest) := by
  rcases Nat.eq_zero_or_pos value with zero | positive
  · exact .inl zero
  · obtain ⟨first, rest, digits⟩ := List.exists_cons_of_ne_nil (Bytes.digitsBE_ne_nil value)
    refine .inr ⟨first, rest, Bytes.head_digitsBE_ne_zero positive digits, ?_⟩
    rw [← digits, Bytes.toNatBE_digitsBE]

theorem toNatBE_zero_cons (rest : Bytes) : Bytes.toNatBE (0 :: rest) = Bytes.toNatBE rest := by
  simp [Bytes.toNatBE_cons]

theorem isIntegerContent_naturalContent (value : Nat) :
    IsIntegerContent (naturalContent value) value := by
  rcases eq_zero_or_eq_toNatBE value with rfl | ⟨first, rest, first_ne, rfl⟩
  · exact ⟨rfl, rfl⟩
  · rw [naturalContent_toNatBE first_ne]
    split
    · rename_i low
      refine ⟨?_, if_pos low⟩
      cases rest with
      | nil => rfl
      | cons second rest =>
        have first_ne_top : first ≠ 0xFF := by
          rintro rfl
          exact absurd low (by decide)
        simp [isMinimalInteger, first_ne, first_ne_top]
    · rename_i high
      refine ⟨?_, ?_⟩
      · simp [isMinimalInteger, high]
      · rw [twosComplement, if_pos (by decide), toNatBE_zero_cons]

theorem twosComplement_neg {first : UInt8} (high : ¬first < 0x80) (rest : Bytes) :
    twosComplement (first :: rest) < 0 := by
  have below : (Bytes.toNatBE (first :: rest) : Int) < 256 ^ (rest.length + 1) := by
    exact_mod_cast Bytes.toNatBE_lt (first :: rest)
  rw [twosComplement, if_neg high]
  omega

private theorem ne_zero_of_high {byte : UInt8} (high : ¬byte < 0x80) : byte ≠ 0 := by
  rintro rfl
  exact high (by decide)

/-- A number that is not negative has one content. -/
theorem isIntegerContent_iff {content : Bytes} {value : Nat} :
    IsIntegerContent content value ↔ content = naturalContent value := by
  constructor
  · rintro ⟨minimal, denotes⟩
    cases content with
    | nil => cases minimal
    | cons first rest =>
      by_cases low : first < 0x80
      · rw [twosComplement, if_pos low] at denotes
        obtain rfl : Bytes.toNatBE (first :: rest) = value := by exact_mod_cast denotes
        by_cases zero : first = 0
        · subst zero
          cases rest with
          | nil => rfl
          | cons second rest =>
            have high : ¬second < 0x80 := by simpa [isMinimalInteger] using minimal
            rw [toNatBE_zero_cons, naturalContent_toNatBE (ne_zero_of_high high), if_neg high]
        · rw [naturalContent_toNatBE zero, if_pos low]
      · have negative := twosComplement_neg low rest
        omega
  · rintro rfl
    exact isIntegerContent_naturalContent value

/-- The digits that are recovered from a content are those of the number whose content it is. -/
theorem unsigned?_eq_some_iff {content digits : Bytes} :
    unsigned? content = some digits ↔
      ∃ value : Nat, content = naturalContent value ∧ digits = Bytes.digitsBE value := by
  constructor
  · intro read
    unfold unsigned? at read
    split at read
    · cases read
    · cases read
      exact ⟨0, rfl, rfl⟩
    · rename_i second rest
      split at read
      · cases read
      · rename_i high
        cases read
        refine ⟨Bytes.toNatBE (second :: rest), ?_, ?_⟩
        · rw [naturalContent_toNatBE (ne_zero_of_high high), if_neg high]
        · rw [Bytes.digitsBE_toNatBE (ne_zero_of_high high)]
    · rename_i first rest lone_zero zero
      split at read
      · rename_i low
        cases read
        have first_ne : first ≠ 0 := by
          rintro rfl
          cases rest with
          | nil => exact lone_zero rfl rfl
          | cons second rest => exact zero second rest rfl rfl
        refine ⟨Bytes.toNatBE (first :: rest), ?_, ?_⟩
        · rw [naturalContent_toNatBE first_ne, if_pos low]
        · rw [Bytes.digitsBE_toNatBE first_ne]
      · cases read
  · rintro ⟨value, rfl, rfl⟩
    rcases eq_zero_or_eq_toNatBE value with rfl | ⟨first, rest, first_ne, rfl⟩
    · rfl
    · rw [naturalContent_toNatBE first_ne, Bytes.digitsBE_toNatBE first_ne]
      split
      · rename_i low
        rw [unsigned?, if_pos low]
        all_goals simp [first_ne]
      · rename_i high
        rw [unsigned?, if_neg high]

theorem unsignedReader_eq_some_iff {bytes digits rest : Bytes} :
    unsignedReader bytes = some (digits, rest) ↔
      ∃ value : Nat, bytes = encodeNat value ++ rest ∧ digits = Bytes.digitsBE value ∧
        (naturalContent value).length < lengthLimit := by
  simp only [unsignedReader, Reader.value_eq_some_iff, unsigned?_eq_some_iff, encodeNat_eq]
  constructor
  · rintro ⟨_, encoded, -, short, value, rfl, rfl⟩
    exact ⟨value, encoded, rfl, short⟩
  · rintro ⟨value, encoded, rfl, short⟩
    exact ⟨naturalContent value, encoded, by decide, short, value, rfl, rfl⟩

end Der
end Countersign
