import Countersign.Proofs.Outcome
import Countersign.Text.Hex

/-!
# Hexadecimal text is read back

A byte string is recovered from its lowercase spelling, which is twice as long.  Every even number
of digits of either case is read, and what is read is spelled by the same digits in lowercase.
-/

namespace Countersign
namespace Hex

/-- A hexadecimal digit of either case. -/
def IsDigit (character : Char) : Prop :=
  '0' ≤ character ∧ character ≤ '9' ∨ 'a' ≤ character ∧ character ≤ 'f' ∨
    'A' ≤ character ∧ character ≤ 'F'

instance (character : Char) : Decidable (IsDigit character) :=
  inferInstanceAs (Decidable (_ ∨ _))

/-- A text of digits of either case, of which there is an even number. -/
structure IsHexadecimal (text : String) : Prop where
  even : text.length % 2 = 0
  digits : ∀ character ∈ text.toList, IsDigit character

/-- The value of a character that is a digit. -/
def value? (character : Char) : Option UInt8 :=
  if character.toNat < 0x80 then digitValue? (UInt8.ofNat character.toNat) else none

/-- The two halves of a byte. -/
def halves (byte : UInt8) : Bytes :=
  [UInt8.ofNat (byte.toNat / 16), UInt8.ofNat (byte.toNat % 16)]

theorem value?_digit {value : Nat} (below : value < 16) :
    value? (digit value) = some (UInt8.ofNat value) := by
  have all : ∀ value : Fin 16, value? (digit value) = some (UInt8.ofNat value) := by decide
  exact all ⟨value, below⟩

theorem digit_injective {value other : Nat} (below : value < 16) (other_below : other < 16)
    (same : digit value = digit other) : value = other := by
  have all : ∀ value other : Fin 16, digit value = digit other → value = other := by decide
  exact congrArg Fin.val (all ⟨value, below⟩ ⟨other, other_below⟩ same)

theorem IsDigit.toNat_lt {character : Char} (isDigit : IsDigit character) :
    character.toNat < 0x80 := by
  rcases isDigit with ⟨-, most⟩ | ⟨-, most⟩ | ⟨-, most⟩ <;>
    exact Nat.lt_of_le_of_lt most (by decide)

private theorem value?_ascii : ∀ number : Fin 0x80,
    IsDigit (Char.ofNat number) ∧ (∃ value : Fin 16,
        value? (Char.ofNat number) = some (UInt8.ofNat value) ∧
          digit value = (Char.ofNat number).toLower) ∨
      ¬IsDigit (Char.ofNat number) ∧ value? (Char.ofNat number) = none := by
  decide

theorem value?_eq_some_iff {character : Char} {value : UInt8} :
    value? character = some value ↔
      IsDigit character ∧ value.toNat < 16 ∧ digit value.toNat = character.toLower := by
  rcases Nat.lt_or_ge character.toNat 0x80 with ascii | wide
  · have known := value?_ascii ⟨character.toNat, ascii⟩
    rw [Char.ofNat_toNat] at known
    rcases known with ⟨isDigit, own, found, own_eq⟩ | ⟨no_digit, nothing⟩
    · have own_lt : own.val < 2 ^ 8 := by omega
      rw [found, Option.some_inj, ← UInt8.toNat_inj, UInt8.toNat_ofNat_of_lt' own_lt, ← own_eq]
      constructor
      · intro same
        rw [← same]
        exact ⟨isDigit, own.isLt, rfl⟩
      · exact fun ⟨_, below, same⟩ => (digit_injective below own.isLt same).symm
    · rw [nothing]
      exact iff_of_false nofun fun ⟨isDigit, _⟩ => no_digit isDigit
  · rw [value?, if_neg (Nat.not_lt.mpr wide)]
    exact iff_of_false nofun fun ⟨isDigit, _⟩ => Nat.not_lt.mpr wide isDigit.toNat_lt

theorem exists_value? {character : Char} (isDigit : IsDigit character) :
    ∃ value, value? character = some value := by
  have known := value?_ascii ⟨character.toNat, isDigit.toNat_lt⟩
  rw [Char.ofNat_toNat] at known
  rcases known with ⟨-, value, found, -⟩ | ⟨no_digit, -⟩
  · exact ⟨_, found⟩
  · exact absurd isDigit no_digit

theorem map_value?_eq_iff {characters : List Char} {values : Bytes} :
    characters.map value? = values.map some ↔
      (∀ character ∈ characters, IsDigit character) ∧ (∀ value ∈ values, value.toNat < 16) ∧
        values.map (fun value => digit value.toNat) = characters.map Char.toLower := by
  induction characters generalizing values with
  | nil => cases values <;> simp
  | cons first rest ih =>
    cases values with
    | nil => simp
    | cons value values =>
      simp only [List.map_cons, List.cons.injEq, ih, value?_eq_some_iff, List.forall_mem_cons]
      constructor
      · rintro ⟨⟨isDigit, below, same⟩, digits, all_below, all_same⟩
        exact ⟨⟨isDigit, digits⟩, ⟨below, all_below⟩, same, all_same⟩
      · rintro ⟨⟨isDigit, digits⟩, ⟨below, all_below⟩, same, all_same⟩
        exact ⟨⟨isDigit, below, same⟩, digits, all_below, all_same⟩

theorem digitValue?_of_ge {byte : UInt8} (wide : 0x80 ≤ byte.toNat) : digitValue? byte = none := by
  rw [digitValue?, if_neg, if_neg, if_neg] <;> simp only [UInt8.le_iff_toNat_le] <;>
    simp <;> omega

/-- The first byte of a wide character is no digit, and neither is the character. -/
theorem exists_utf8EncodeChar_eq_cons {character : Char} (wide : 0x80 ≤ character.toNat) :
    ∃ first rest, String.utf8EncodeChar character = first :: rest ∧ digitValue? first = none := by
  have bytes_wide (value : Nat) (high : 0x80 ≤ value) (low : value < 0x100) :
      digitValue? (UInt8.ofNat value) = none :=
    digitValue?_of_ge (by rwa [UInt8.toNat_ofNat_of_lt' low])
  rw [String.utf8EncodeChar, if_neg (show ¬character.val.toNat ≤ 0x7F from Nat.not_le.mpr wide)]
  split
  · exact ⟨_, _, rfl, bytes_wide _ (by omega) (by omega)⟩
  split
  · exact ⟨_, _, rfl, bytes_wide _ (by omega) (by omega)⟩
  · exact ⟨_, _, rfl, bytes_wide _ (by omega) (by omega)⟩

/-- The bytes of a text are digits when its characters are. -/
theorem map_digitValue?_ofChars {characters : List Char} {values : Bytes} :
    (Bytes.ofChars characters).map digitValue? = values.map some ↔
      characters.map value? = values.map some := by
  induction characters generalizing values with
  | nil => rfl
  | cons first rest ih =>
    rw [Bytes.ofChars, List.flatMap_cons, List.map_append, List.map_cons]
    rcases Nat.lt_or_ge first.toNat 0x80 with ascii | wide
    · have encoded : String.utf8EncodeChar first = [UInt8.ofNat first.toNat] := by
        rw [String.utf8EncodeChar]
        exact if_pos (Nat.le_of_lt_succ ascii)
      rw [encoded, List.map_singleton, List.singleton_append, value?, if_pos ascii]
      cases values with
      | nil => simp
      | cons value values =>
        rw [List.map_cons, List.cons.injEq, List.cons.injEq]
        exact and_congr_right fun _ => ih
    -- A wide character has several bytes, but already the first of them is refused.
    · obtain ⟨byte, more, encoded, no_digit⟩ := exists_utf8EncodeChar_eq_cons wide
      rw [encoded, List.map_cons, no_digit, value?, if_neg (Nat.not_lt.mpr wide)]
      cases values <;> simp

theorem readDigit_eq_ok_iff {byte value : UInt8} {position : Nat} :
    readDigit byte position = .ok value ↔ digitValue? byte = some value := by
  cases found : digitValue? byte <;> simp [readDigit, found]

theorem toNat_lt_of_digitValue? {byte value : UInt8} (found : digitValue? byte = some value) :
    value.toNat < 16 := by
  have below : value < 16 := by
    unfold digitValue? at found
    grind
  exact UInt8.lt_iff_toNat_lt.mp below

theorem join_halves (byte : UInt8) :
    UInt8.ofNat (byte.toNat / 16) * 16 + UInt8.ofNat (byte.toNat % 16) = byte := by
  have below := byte.toNat_lt
  rw [← UInt8.toNat_inj]
  simp [UInt8.toNat_add, UInt8.toNat_mul]
  omega

theorem halves_join {upper lower : UInt8} (upper_lt : upper.toNat < 16)
    (lower_lt : lower.toNat < 16) : halves (upper * 16 + lower) = [upper, lower] := by
  have toNat_eq : (upper * 16 + lower).toNat = upper.toNat * 16 + lower.toNat := by
    simp [UInt8.toNat_add, UInt8.toNat_mul]
    omega
  have quotient : (upper.toNat * 16 + lower.toNat) / 16 = upper.toNat := by omega
  have remainder : (upper.toNat * 16 + lower.toNat) % 16 = lower.toNat := by omega
  rw [halves, toNat_eq, quotient, remainder, UInt8.ofNat_toNat, UInt8.ofNat_toNat]

/-- Bytes are read when all of them are digits, whose values are the halves of what is read. -/
theorem decodeFrom_eq_ok_iff {position : Nat} {bytes result : Bytes} :
    decodeFrom position bytes = .ok result ↔
      bytes.map digitValue? = (result.flatMap halves).map some := by
  match bytes with
  | [] => cases result <;> simp [decodeFrom, halves]
  | [_] => cases result <;> simp [decodeFrom, halves]
  | high :: low :: rest =>
    simp only [decodeFrom, Outcome.bind_eq_ok_iff, readDigit_eq_ok_iff, decodeFrom_eq_ok_iff]
    constructor
    · rintro ⟨upper, upper_found, lower, lower_found, tail, tail_found, same⟩
      cases same
      rw [List.flatMap_cons, halves_join (toNat_lt_of_digitValue? upper_found)
        (toNat_lt_of_digitValue? lower_found)]
      simp [upper_found, lower_found, tail_found]
    · intro found
      cases result with
      | nil => simp at found
      | cons byte tail =>
        simp only [List.map_cons, List.flatMap_cons, halves, List.cons_append, List.nil_append,
          List.cons.injEq] at found
        obtain ⟨upper_found, lower_found, tail_found⟩ := found
        refine ⟨_, upper_found, _, lower_found, tail, tail_found, ?_⟩
        exact congrArg (fun first => Except.ok (first :: tail)) (join_halves byte)

theorem length_flatMap_halves (bytes : Bytes) :
    (bytes.flatMap halves).length = 2 * bytes.length := by
  induction bytes with
  | nil => rfl
  | cons byte rest ih =>
    rw [List.flatMap_cons, List.length_append, ih, List.length_cons, halves]
    simp
    omega

theorem decode_eq_ok_iff_map {text : String} {bytes : Bytes} :
    decode text = .ok bytes ↔ text.toList.map value? = (bytes.flatMap halves).map some := by
  rw [← map_digitValue?_ofChars, decode]
  split
  case isTrue odd =>
    refine iff_of_false nofun fun found => ?_
    have length_eq := congrArg List.length found
    rw [List.length_map, List.length_map, length_flatMap_halves] at length_eq
    rw [Bytes.ofText, length_eq] at odd
    omega
  case isFalse => exact decodeFrom_eq_ok_iff

theorem length_eq_of_decode {text : String} {bytes : Bytes} (read : decode text = .ok bytes) :
    text.length = 2 * bytes.length := by
  have length_eq := congrArg List.length (decode_eq_ok_iff_map.mp read)
  rwa [List.length_map, List.length_map, length_flatMap_halves, String.length_toList] at length_eq

theorem toNat_halves (byte : UInt8) :
    (halves byte).map UInt8.toNat = [byte.toNat / 16, byte.toNat % 16] := by
  have below := byte.toNat_lt
  have upper : byte.toNat / 16 % 2 ^ 8 = byte.toNat / 16 := by omega
  have lower : byte.toNat % 16 % 2 ^ 8 = byte.toNat % 16 := by omega
  simp only [halves, List.map_cons, List.map_nil, UInt8.toNat_ofNat', upper, lower]

theorem toNat_lt_of_mem_halves {bytes : Bytes} {half : UInt8}
    (listed : half ∈ bytes.flatMap halves) : half.toNat < 16 := by
  obtain ⟨byte, -, in_byte⟩ := List.mem_flatMap.mp listed
  have below := byte.toNat_lt
  have number := List.mem_map_of_mem (f := UInt8.toNat) in_byte
  rw [toNat_halves, List.mem_cons, List.mem_singleton] at number
  omega

theorem flatMap_pair (bytes : Bytes) :
    bytes.flatMap pair = (bytes.flatMap halves).map fun half => digit half.toNat := by
  have pair_eq (byte : UInt8) : pair byte = (halves byte).map fun half => digit half.toNat := by
    change _ = (halves byte).map (digit ∘ UInt8.toNat)
    rw [← List.map_map, toNat_halves]
    rfl
  rw [List.map_flatMap]
  exact congrArg (List.flatMap · bytes) (funext pair_eq)

/-- Reading undoes writing. -/
theorem decode_encode (bytes : Bytes) : decode (encode bytes) = .ok bytes := by
  rw [decode_eq_ok_iff_map, encode, String.toList_ofList, flatMap_pair, List.map_map]
  refine List.map_congr_left fun half listed => ?_
  rw [Function.comp_apply, value?_digit (toNat_lt_of_mem_halves listed), UInt8.ofNat_toNat]

/-- A text is read when it is hexadecimal, and what is read is spelled by the same digits in
lowercase. -/
theorem decode_eq_ok_iff {text : String} {bytes : Bytes} :
    decode text = .ok bytes ↔ IsHexadecimal text ∧ encode bytes = text.toLower := by
  have lower_iff : encode bytes = text.toLower ↔
      (bytes.flatMap halves).map (fun half => digit half.toNat) =
        text.toList.map Char.toLower := by
    have lower_eq : text.toLower.toList = text.toList.map Char.toLower := String.toList_map
    rw [← flatMap_pair, ← String.toList_inj, encode, String.toList_ofList, lower_eq]
  constructor
  · intro read
    have length_eq := length_eq_of_decode read
    rw [decode_eq_ok_iff_map, map_value?_eq_iff] at read
    exact ⟨⟨by omega, read.1⟩, lower_iff.mpr read.2.2⟩
  · rintro ⟨hexadecimal, same⟩
    rw [decode_eq_ok_iff_map, map_value?_eq_iff]
    exact ⟨hexadecimal.digits, fun _ => toNat_lt_of_mem_halves, lower_iff.mp same⟩

private theorem exists_flatMap_halves : ∀ characters : List Char, characters.length % 2 = 0 →
    (∀ character ∈ characters, IsDigit character) →
      ∃ bytes : Bytes, characters.map value? = (bytes.flatMap halves).map some
  | [], _, _ => ⟨[], rfl⟩
  | [_], odd, _ => nomatch odd
  | high :: low :: rest, even, digits => by
    obtain ⟨high_digit, low_digit, rest_digits⟩ :
        IsDigit high ∧ IsDigit low ∧ ∀ character ∈ rest, IsDigit character := by
      rwa [← List.forall_mem_cons, ← List.forall_mem_cons]
    rw [List.length_cons, List.length_cons, Nat.add_assoc, Nat.add_mod_right] at even
    obtain ⟨bytes, bytes_eq⟩ := exists_flatMap_halves rest even rest_digits
    obtain ⟨upper, upper_eq⟩ := exists_value? high_digit
    obtain ⟨lower, lower_eq⟩ := exists_value? low_digit
    refine ⟨(upper * 16 + lower) :: bytes, ?_⟩
    rw [List.flatMap_cons, halves_join (value?_eq_some_iff.mp upper_eq).2.1
      (value?_eq_some_iff.mp lower_eq).2.1]
    simp [upper_eq, lower_eq, bytes_eq]

theorem exists_decode_eq_ok_iff {text : String} :
    (∃ bytes, decode text = .ok bytes) ↔ IsHexadecimal text := by
  refine ⟨fun ⟨bytes, read⟩ => (decode_eq_ok_iff.mp read).1, fun ⟨even, digits⟩ => ?_⟩
  simp only [decode_eq_ok_iff_map]
  rw [← String.length_toList] at even
  exact exists_flatMap_halves text.toList even digits

end Hex
end Countersign
