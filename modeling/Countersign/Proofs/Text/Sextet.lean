import Mathlib.Data.Nat.Digits.Defs
import Mathlib.Tactic.Ring
import Countersign.Proofs.Bytes
import Countersign.Proofs.Text.Base64

/-!
# The number that a base64 text spells

The characters of a text are digits to the base 64, and the number that they spell is that of the
bytes, moved up by two bits for every padding character.  This determines one text for every byte
string.  A text is one of these when padding completes its last group of four characters and the
bits of its digits that belong to no byte are zero.
-/

namespace Countersign
namespace Base64

/-- The characters of the standard alphabet, in the order of the digits that they stand for. -/
def alphabet : List Char :=
  "ABCDEFGHIJKLMNOPQRSTUVWXYZabcdefghijklmnopqrstuvwxyz0123456789+/".toList

/-- A digit to the base 64. -/
abbrev Sextet := Fin 64

namespace Sextet

/-- The character of a digit. -/
def toChar (digit : Sextet) : Char :=
  alphabet.get (digit.cast (by decide +kernel))

theorem symbol_eq_toChar {value : Nat} (below : value < 64) :
    symbol value = toChar ⟨value, below⟩ := by
  have all : ∀ digit : Sextet, symbol digit.val = toChar digit := by decide +kernel
  exact all ⟨value, below⟩

/-- The number that digits denote: each counts by its place, the last one for itself. -/
def placeValue (digits : List Sextet) : Nat :=
  Nat.ofDigits 64 (digits.reverse.map Fin.val)

@[simp]
theorem placeValue_nil : placeValue [] = 0 := rfl

theorem placeValue_cons (first : Sextet) (rest : List Sextet) :
    placeValue (first :: rest) = first.val * 64 ^ rest.length + placeValue rest := by
  simp only [placeValue, List.reverse_cons, List.map_append, Nat.ofDigits_append, List.length_map,
    List.length_reverse, List.map_singleton, Nat.ofDigits_singleton]
  ring

private theorem val_lt_of_mem (digits : List Sextet) :
    ∀ number ∈ digits.reverse.map Fin.val, number < 64 := by
  intro number listed
  obtain ⟨digit, -, rfl⟩ := List.mem_map.mp listed
  exact digit.isLt

theorem placeValue_lt (digits : List Sextet) : placeValue digits < 64 ^ digits.length := by
  have below := Nat.ofDigits_lt_base_pow_length (by decide : 1 < 64) (val_lt_of_mem digits)
  rwa [List.length_map, List.length_reverse] at below

/-- Digits of a given number are determined by the number that they denote. -/
theorem eq_of_placeValue_eq {digits others : List Sextet}
    (length_eq : digits.length = others.length) (same : placeValue digits = placeValue others) :
    digits = others := by
  have mapped := Nat.ofDigits_inj_of_len_eq (by decide : 1 < 64) (by simp [length_eq])
    (val_lt_of_mem digits) (val_lt_of_mem others) same
  exact List.reverse_inj.mp ((List.map_inj_right fun _ _ => Fin.ext).mp mapped)

end Sextet

open Sextet

/-- A list of digits, and padding that completes their last group of four characters. -/
structure IsGrouped (characters : List Char) (digits : List Sextet) (padding : Nat) : Prop where
  characters_eq : characters = digits.map toChar ++ List.replicate padding '='
  padding_le : padding ≤ 2
  complete : (digits.length + padding) % 4 = 0

/-- A text of digits and padding that spells a byte string.  A digit has six bits, which are those
of the bytes and two more for each padding character; these are zero and stand at the end. -/
structure Spells (characters : List Char) (bytes : Bytes) (digits : List Sextet) (padding : Nat) :
    Prop extends IsGrouped characters digits padding where
  length_eq : 3 * digits.length = 4 * bytes.length + padding
  placeValue_eq : placeValue digits = Bytes.toNatBE bytes * 4 ^ padding

/-- A text that spells a byte string. -/
def IsSpelling (text : String) (bytes : Bytes) : Prop :=
  ∃ digits padding, Spells text.toList bytes digits padding

/-- A text of digits whose bits beyond the last whole byte are zero, and of the padding that they
need. -/
def IsCanonical (text : String) : Prop :=
  ∃ digits padding, IsGrouped text.toList digits padding ∧ 4 ^ padding ∣ placeValue digits

private theorem pow_eq {digits bytes padding : Nat} (length_eq : 3 * digits = 4 * bytes + padding) :
    64 ^ digits = 256 ^ bytes * 4 ^ padding := by
  calc
    64 ^ digits = 4 ^ (3 * digits) := by
      rw [pow_mul]
      rfl
    _ = 4 ^ (4 * bytes) * 4 ^ padding := by rw [length_eq, pow_add]
    _ = 256 ^ bytes * 4 ^ padding := by
      rw [pow_mul]
      rfl

theorem exists_spells_encodeChars (bytes : Bytes) :
    ∃ digits padding, Spells (encodeChars bytes) bytes digits padding := by
  fun_induction encodeChars bytes with
  | case1 => exact ⟨[], 0, ⟨rfl, by decide, rfl⟩, rfl, rfl⟩
  | case2 a =>
    have a_lt := a.toNat_lt
    refine ⟨[⟨a.toNat / 4, by omega⟩, ⟨a.toNat % 4 * 16, by omega⟩], 2,
      ⟨?_, by decide, by simp⟩, rfl, ?_⟩
    · rw [symbol_eq_toChar (by omega), symbol_eq_toChar (by omega)]
      rfl
    · simp only [placeValue_cons, placeValue_nil, Bytes.toNatBE_cons, Bytes.toNatBE_nil,
        List.length_cons, List.length_nil]
      omega
  | case3 a b =>
    have a_lt := a.toNat_lt
    have b_lt := b.toNat_lt
    refine ⟨[⟨a.toNat / 4, by omega⟩, ⟨a.toNat % 4 * 16 + b.toNat / 16, by omega⟩,
      ⟨b.toNat % 16 * 4, by omega⟩], 1, ⟨?_, by decide, by simp⟩, rfl, ?_⟩
    · rw [symbol_eq_toChar (by omega), symbol_eq_toChar (by omega), symbol_eq_toChar (by omega)]
      rfl
    · simp only [placeValue_cons, placeValue_nil, Bytes.toNatBE_cons, Bytes.toNatBE_nil,
        List.length_cons, List.length_nil]
      omega
  | case4 a b c rest ih =>
    obtain ⟨digits, padding, ⟨characters_eq, padding_le, complete⟩, length_eq, value_eq⟩ := ih
    have a_lt := a.toNat_lt
    have b_lt := b.toNat_lt
    have c_lt := c.toNat_lt
    have group : a.toNat / 4 * 64 ^ 3 + (a.toNat % 4 * 16 + b.toNat / 16) * 64 ^ 2 +
        (b.toNat % 16 * 4 + c.toNat / 64) * 64 + c.toNat % 64 =
          a.toNat * 256 ^ 2 + b.toNat * 256 + c.toNat := by
      omega
    refine ⟨⟨a.toNat / 4, by omega⟩ :: ⟨a.toNat % 4 * 16 + b.toNat / 16, by omega⟩ ::
      ⟨b.toNat % 16 * 4 + c.toNat / 64, by omega⟩ :: ⟨c.toNat % 64, by omega⟩ :: digits, padding,
      ⟨?_, padding_le, ?_⟩, ?_, ?_⟩
    · rw [characters_eq, symbol_eq_toChar (by omega), symbol_eq_toChar (by omega),
        symbol_eq_toChar (by omega), symbol_eq_toChar (by omega)]
      rfl
    · simp only [List.length_cons]
      omega
    · simp only [List.length_cons]
      omega
    · simp only [placeValue_cons, Bytes.toNatBE_cons, List.length_cons, value_eq, pow_succ,
        pow_eq length_eq]
      calc
        _ = (a.toNat / 4 * 64 ^ 3 + (a.toNat % 4 * 16 + b.toNat / 16) * 64 ^ 2 +
              (b.toNat % 16 * 4 + c.toNat / 64) * 64 + c.toNat % 64) *
                (256 ^ rest.length * 4 ^ padding) + Bytes.toNatBE rest * 4 ^ padding := by ring
        _ = _ := by
          rw [group]
          ring

theorem isSpelling_encode (bytes : Bytes) : IsSpelling (encode bytes) bytes := by
  rw [IsSpelling, encode, String.toList_ofList]
  exact exists_spells_encodeChars bytes

/-- A byte string is spelled by one text. -/
theorem IsSpelling.eq {text other : String} {bytes : Bytes} (spelling : IsSpelling text bytes)
    (other_spelling : IsSpelling other bytes) : text = other := by
  obtain ⟨digits, padding, ⟨characters_eq, padding_le, -⟩, length_eq, value_eq⟩ := spelling
  obtain ⟨others, other_padding, ⟨others_eq, other_le, -⟩, others_length, others_value⟩ :=
    other_spelling
  obtain rfl : padding = other_padding := by omega
  obtain rfl : digits = others :=
    eq_of_placeValue_eq (by omega) (value_eq.trans others_value.symm)
  exact String.toList_inj.mp (characters_eq.trans others_eq.symm)

theorem eq_encode_iff {text : String} {bytes : Bytes} :
    text = encode bytes ↔ IsSpelling text bytes := by
  constructor
  · rintro rfl
    exact isSpelling_encode bytes
  · exact fun spelling => spelling.eq (isSpelling_encode bytes)

/-- A text spells a byte string when it is canonical. -/
theorem exists_isSpelling_iff {text : String} :
    (∃ bytes, IsSpelling text bytes) ↔ IsCanonical text := by
  constructor
  · rintro ⟨bytes, digits, padding, grouped, -, value_eq⟩
    exact ⟨digits, padding, grouped, Dvd.intro_left _ value_eq.symm⟩
  · rintro ⟨digits, padding, grouped, value, value_eq⟩
    have padding_le := grouped.padding_le
    obtain ⟨groups, groups_eq⟩ := Nat.dvd_of_mod_eq_zero grouped.complete
    have length_eq : 3 * digits.length = 4 * (3 * groups - padding) + padding := by omega
    have value_lt : value < 256 ^ (3 * groups - padding) := by
      have below := placeValue_lt digits
      rw [value_eq, pow_eq length_eq, Nat.mul_comm] at below
      exact Nat.lt_of_mul_lt_mul_right below
    refine ⟨Bytes.ofNatBE (3 * groups - padding) value, digits, padding, grouped, ?_, ?_⟩
    · rw [Bytes.length_ofNatBE, length_eq]
    · rw [Bytes.toNatBE_ofNatBE, Nat.mod_eq_of_lt value_lt, value_eq, Nat.mul_comm]

theorem exists_decode_eq_some_iff {text : String} :
    (∃ bytes, decode text = some bytes) ↔ IsCanonical text := by
  simp only [decode_eq_some_iff, eq_encode_iff, exists_isSpelling_iff]

-- Padding, spare bits, blanks and other alphabets leave no second spelling.
example : ["AQI=", "AQI", "AQI==", "AQJ=", "AQ I=", "-_I="].map decode =
    [some [1, 2], none, none, none, none, none] := by
  decide +kernel

end Base64
end Countersign
