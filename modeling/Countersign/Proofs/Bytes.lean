import Mathlib.Tactic.Ring
import Countersign.Bytes

/-!
# Numbers as byte strings

A byte string and the number that it spells determine each other, given the number of bytes or, for
numbers above zero, the rule that the first byte is not zero.
-/

namespace Countersign
namespace Bytes

private theorem foldl_eq (start : Nat) (bytes : Bytes) :
    bytes.foldl (fun value byte => value * 256 + byte.toNat) start =
      start * 256 ^ bytes.length + toNatBE bytes := by
  induction bytes generalizing start with
  | nil => simp [toNatBE]
  | cons first rest ih =>
    simp only [toNatBE, List.foldl_cons, List.length_cons]
    rw [ih, ih (0 * 256 + first.toNat)]
    ring

@[simp]
theorem toNatBE_nil : toNatBE [] = 0 := rfl

theorem toNatBE_cons (first : UInt8) (rest : Bytes) :
    toNatBE (first :: rest) = first.toNat * 256 ^ rest.length + toNatBE rest := by
  rw [toNatBE, List.foldl_cons, foldl_eq]
  ring

theorem toNatBE_append (front back : Bytes) :
    toNatBE (front ++ back) = toNatBE front * 256 ^ back.length + toNatBE back := by
  rw [toNatBE, List.foldl_append, foldl_eq]
  rfl

theorem toNatBE_lt (bytes : Bytes) : toNatBE bytes < 256 ^ bytes.length := by
  induction bytes with
  | nil => simp
  | cons first rest ih =>
    have first_lt : first.toNat < 256 := first.toNat_lt
    rw [toNatBE_cons, List.length_cons, pow_succ]
    calc
      first.toNat * 256 ^ rest.length + toNatBE rest
          < first.toNat * 256 ^ rest.length + 256 ^ rest.length := by omega
      _ = (first.toNat + 1) * 256 ^ rest.length := by ring
      _ ≤ 256 * 256 ^ rest.length := Nat.mul_le_mul_right _ first_lt
      _ = 256 ^ rest.length * 256 := by ring

theorem toNatLE_cons (first : UInt8) (rest : Bytes) :
    toNatLE (first :: rest) = toNatLE rest * 256 + first.toNat := by
  simp [toNatLE, toNatBE_append, toNatBE_cons]

theorem toNatLE_ofNatLE (width value : Nat) :
    toNatLE (ofNatLE width value) = value % 256 ^ width := by
  induction width generalizing value with
  | zero => simp [ofNatLE, toNatLE, Nat.mod_one]
  | succ width ih =>
    have digit : (UInt8.ofNat (value % 256)).toNat = value % 256 := by
      simp
    rw [ofNatLE, toNatLE_cons, ih, digit, pow_succ', Nat.mod_mul]
    ring

theorem ofNatLE_toNatLE (bytes : Bytes) : ofNatLE bytes.length (toNatLE bytes) = bytes := by
  induction bytes with
  | nil => rfl
  | cons first rest ih =>
    have first_lt : first.toNat < 256 := first.toNat_lt
    rw [List.length_cons, toNatLE_cons, ofNatLE]
    have quotient : (toNatLE rest * 256 + first.toNat) / 256 = toNatLE rest := by omega
    have remainder : (toNatLE rest * 256 + first.toNat) % 256 = first.toNat := by omega
    rw [quotient, remainder, ih, UInt8.ofNat_toNat]

@[simp]
theorem length_ofNatBE (width value : Nat) : (ofNatBE width value).length = width := by
  simp [ofNatBE]

theorem toNatBE_ofNatBE (width value : Nat) :
    toNatBE (ofNatBE width value) = value % 256 ^ width :=
  toNatLE_ofNatLE width value

theorem ofNatBE_toNatBE (bytes : Bytes) : ofNatBE bytes.length (toNatBE bytes) = bytes := by
  have reversed := ofNatLE_toNatLE bytes.reverse
  rw [toNatLE, List.reverse_reverse, List.length_reverse] at reversed
  rw [ofNatBE, reversed, List.reverse_reverse]

/-- The number of digits to the base 256 of a number above zero. -/
theorem length_digitsBE_eq_iff {value width : Nat} (positive : 0 < value) :
    (digitsBE value).length = width + 1 ↔ 256 ^ width ≤ value ∧ value < 256 ^ (width + 1) := by
  have power (exponent : Nat) : 256 ^ exponent = 2 ^ (8 * exponent) := by
    rw [pow_mul]
    rfl
  have value_ne : value ≠ 0 := by omega
  rw [digitsBE, length_ofNatBE, power, power, ← Nat.le_log2 value_ne, ← Nat.log2_lt value_ne]
  omega

theorem toNatBE_digitsBE (value : Nat) : toNatBE (digitsBE value) = value := by
  rcases Nat.eq_zero_or_pos value with rfl | positive
  · rfl
  · obtain ⟨width, width_eq⟩ : ∃ width, (value.log2 + 8) / 8 = width + 1 :=
      ⟨value.log2 / 8, by omega⟩
    have length_eq : (digitsBE value).length = width + 1 := by
      rw [digitsBE, length_ofNatBE, width_eq]
    have bounds := (length_digitsBE_eq_iff positive).mp length_eq
    rw [digitsBE, toNatBE_ofNatBE, width_eq, Nat.mod_eq_of_lt bounds.2]

theorem le_toNatBE {first : UInt8} {rest : Bytes} (first_ne : first ≠ 0) :
    256 ^ rest.length ≤ toNatBE (first :: rest) := by
  have first_pos : 0 < first.toNat := by
    rw [Nat.pos_iff_ne_zero]
    exact fun zero => first_ne (UInt8.toNat_inj.mp zero)
  rw [toNatBE_cons]
  calc
    256 ^ rest.length ≤ first.toNat * 256 ^ rest.length := Nat.le_mul_of_pos_left _ first_pos
    _ ≤ first.toNat * 256 ^ rest.length + toNatBE rest := Nat.le_add_right _ _

/-- Digits of which the first is not zero are the digits of the number that they spell. -/
theorem digitsBE_toNatBE {first : UInt8} {rest : Bytes} (first_ne : first ≠ 0) :
    digitsBE (toNatBE (first :: rest)) = first :: rest := by
  have least : 256 ^ rest.length ≤ toNatBE (first :: rest) := le_toNatBE first_ne
  have positive : 0 < toNatBE (first :: rest) :=
    Nat.lt_of_lt_of_le (Nat.pow_pos (by omega)) least
  have width := (length_digitsBE_eq_iff positive).mpr ⟨least, toNatBE_lt (first :: rest)⟩
  rw [digitsBE, length_ofNatBE] at width
  rw [digitsBE, width]
  exact ofNatBE_toNatBE (first :: rest)

theorem digitsBE_ne_nil (value : Nat) : digitsBE value ≠ [] := by
  intro empty
  have length_eq := congrArg List.length empty
  rw [digitsBE, length_ofNatBE, List.length_nil] at length_eq
  omega

theorem head_digitsBE_ne_zero {value : Nat} {first : UInt8} {rest : Bytes} (positive : 0 < value)
    (digits : digitsBE value = first :: rest) : first ≠ 0 := by
  rintro rfl
  have width : (digitsBE value).length = rest.length + 1 := by rw [digits, List.length_cons]
  have least := ((length_digitsBE_eq_iff positive).mp width).1
  have spelled := toNatBE_digitsBE value
  rw [digits, toNatBE_cons] at spelled
  have small := toNatBE_lt rest
  simp at spelled
  omega

theorem length_digitsBE_le_iff {value width : Nat} (positive : 0 < value) :
    (digitsBE value).length ≤ width ↔ value < 256 ^ width := by
  constructor
  · intro length_le
    calc
      value = toNatBE (digitsBE value) := (toNatBE_digitsBE value).symm
      _ < 256 ^ (digitsBE value).length := toNatBE_lt _
      _ ≤ 256 ^ width := Nat.pow_le_pow_right (by omega) length_le
  · intro value_lt
    obtain ⟨less, less_eq⟩ := Nat.exists_eq_succ_of_ne_zero
      (mt List.length_eq_zero_iff.mp (digitsBE_ne_nil value))
    have least := ((length_digitsBE_eq_iff positive).mp less_eq).1
    rw [less_eq]
    exact (Nat.pow_lt_pow_iff_right (by omega)).mp (Nat.lt_of_le_of_lt least value_lt)

end Bytes
end Countersign
