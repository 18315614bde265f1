import Countersign.Text.Base64

/-!
# Byte strings and their base64 spelling

Every byte string is read back from its spelling, and every text that is read is the spelling of
what is read.
-/

namespace Countersign
namespace Base64

theorem symbolValue?_symbol {value : Nat} (below : value < 64) :
    symbolValue? (symbol value) = some value := by
  have all : ∀ small : Fin 64, symbolValue? (symbol small) = some small.val := by decide
  exact all ⟨value, below⟩

theorem symbol_ne_pad {value : Nat} (below : value < 64) : symbol value ≠ '=' := by
  intro same
  have found := symbolValue?_symbol below
  rw [same] at found
  cases found

private theorem toNat_bounds {low high character : Char}
    (between : low ≤ character ∧ character ≤ high) :
    low.toNat ≤ character.toNat ∧ character.toNat ≤ high.toNat :=
  between

theorem symbolValue?_eq_some {character : Char} {value : Nat}
    (found : symbolValue? character = some value) : value < 64 ∧ symbol value = character := by
  unfold symbolValue? at found
  split at found
  · rename_i capital
    obtain ⟨low, high⟩ := toNat_bounds capital
    cases found
    change 65 ≤ character.toNat at low
    change character.toNat ≤ 90 at high
    refine ⟨by omega, ?_⟩
    rw [symbol, if_pos (by omega), show 65 + (character.toNat - 65) = character.toNat by omega,
      Char.ofNat_toNat]
  split at found
  · rename_i small
    obtain ⟨low, high⟩ := toNat_bounds small
    cases found
    change 97 ≤ character.toNat at low
    change character.toNat ≤ 122 at high
    refine ⟨by omega, ?_⟩
    rw [symbol, if_neg (by omega), if_pos (by omega),
      show 71 + (character.toNat - 71) = character.toNat by omega, Char.ofNat_toNat]
  split at found
  · rename_i digit
    obtain ⟨low, high⟩ := toNat_bounds digit
    cases found
    change 48 ≤ character.toNat at low
    change character.toNat ≤ 57 at high
    refine ⟨by omega, ?_⟩
    rw [symbol, if_neg (by omega), if_neg (by omega), if_pos (by omega),
      show character.toNat + 4 - 4 = character.toNat by omega, Char.ofNat_toNat]
  split at found
  · rename_i plus
    cases found
    exact ⟨by omega, plus.symm⟩
  split at found
  · rename_i slash
    cases found
    exact ⟨by omega, slash.symm⟩
  · cases found

theorem symbolValue?_eq_some_iff {character : Char} {value : Nat} :
    symbolValue? character = some value ↔ value < 64 ∧ character = symbol value := by
  constructor
  · intro found
    obtain ⟨below, same⟩ := symbolValue?_eq_some found
    exact ⟨below, same.symm⟩
  · rintro ⟨below, rfl⟩
    exact symbolValue?_symbol below

private theorem toNat_ofNat {value : Nat} (below : value < 256) :
    (UInt8.ofNat value).toNat = value := by
  rw [UInt8.toNat_ofNat']
  omega

private theorem ofNat_eq {byte : UInt8} {value : Nat} (same : value = byte.toNat) :
    UInt8.ofNat value = byte := by
  rw [same, UInt8.ofNat_toNat]

theorem decodeOne_eq_some_iff {first second : Char} {bytes : Bytes} :
    decodeOne first second = some bytes ↔ ∃ a : UInt8, bytes = [a] ∧
      first = symbol (a.toNat / 4) ∧ second = symbol (a.toNat % 4 * 16) := by
  simp only [decodeOne, Option.bind_eq_bind, Option.bind_eq_some_iff, symbolValue?_eq_some_iff,
    Option.ite_none_right_eq_some, Option.some.injEq]
  constructor
  · rintro ⟨high, ⟨high_lt, rfl⟩, low, ⟨low_lt, rfl⟩, padded, rfl⟩
    refine ⟨_, rfl, ?_⟩
    rw [toNat_ofNat (by omega)]
    exact ⟨by congr 1; omega, by congr 1; omega⟩
  · rintro ⟨a, rfl, rfl, rfl⟩
    have a_lt := a.toNat_lt
    exact ⟨_, ⟨by omega, rfl⟩, _, ⟨by omega, rfl⟩, by omega,
      by rw [ofNat_eq (show _ = a.toNat by omega)]⟩

theorem decodeTwo_eq_some_iff {first second third : Char} {bytes : Bytes} :
    decodeTwo first second third = some bytes ↔ ∃ a b : UInt8, bytes = [a, b] ∧
      first = symbol (a.toNat / 4) ∧ second = symbol (a.toNat % 4 * 16 + b.toNat / 16) ∧
      third = symbol (b.toNat % 16 * 4) := by
  simp only [decodeTwo, Option.bind_eq_bind, Option.bind_eq_some_iff, symbolValue?_eq_some_iff,
    Option.ite_none_right_eq_some, Option.some.injEq]
  constructor
  · rintro ⟨high, ⟨high_lt, rfl⟩, middle, ⟨middle_lt, rfl⟩, low, ⟨low_lt, rfl⟩, padded, rfl⟩
    refine ⟨_, _, rfl, ?_⟩
    rw [toNat_ofNat (by omega), toNat_ofNat (by omega)]
    exact ⟨by congr 1; omega, by congr 1; omega, by congr 1; omega⟩
  · rintro ⟨a, b, rfl, rfl, rfl, rfl⟩
    have a_lt := a.toNat_lt
    have b_lt := b.toNat_lt
    refine ⟨_, ⟨by omega, rfl⟩, _, ⟨by omega, rfl⟩, _, ⟨by omega, rfl⟩, by omega, ?_⟩
    rw [ofNat_eq (show _ = a.toNat by omega), ofNat_eq (show _ = b.toNat by omega)]

theorem decodeThree_eq_some_iff {first second third fourth : Char} {bytes : Bytes} :
    decodeThree first second third fourth = some bytes ↔ ∃ a b c : UInt8, bytes = [a, b, c] ∧
      first = symbol (a.toNat / 4) ∧ second = symbol (a.toNat % 4 * 16 + b.toNat / 16) ∧
      third = symbol (b.toNat % 16 * 4 + c.toNat / 64) ∧ fourth = symbol (c.toNat % 64) := by
  simp only [decodeThree, Option.bind_eq_bind, Option.bind_eq_some_iff, symbolValue?_eq_some_iff,
    Option.some.injEq]
  constructor
  · rintro ⟨high, ⟨high_lt, rfl⟩, second, ⟨second_lt, rfl⟩, third, ⟨third_lt, rfl⟩, low,
      ⟨low_lt, rfl⟩, rfl⟩
    refine ⟨_, _, _, rfl, ?_⟩
    rw [toNat_ofNat (by omega), toNat_ofNat (by omega), toNat_ofNat (by omega)]
    exact ⟨by congr 1; omega, by congr 1; omega, by congr 1; omega, by congr 1; omega⟩
  · rintro ⟨a, b, c, rfl, rfl, rfl, rfl, rfl⟩
    have a_lt := a.toNat_lt
    have b_lt := b.toNat_lt
    have c_lt := c.toNat_lt
    refine ⟨_, ⟨by omega, rfl⟩, _, ⟨by omega, rfl⟩, _, ⟨by omega, rfl⟩, _, ⟨by omega, rfl⟩, ?_⟩
    rw [ofNat_eq (show _ = a.toNat by omega), ofNat_eq (show _ = b.toNat by omega),
      ofNat_eq (show _ = c.toNat by omega)]

theorem decodeChars_encodeChars (bytes : Bytes) : decodeChars (encodeChars bytes) = some bytes := by
  fun_induction encodeChars bytes with
  | case1 => rfl
  | case2 a =>
    rw [decodeChars]
    exact decodeOne_eq_some_iff.mpr ⟨a, rfl, rfl, rfl⟩
  | case3 a b =>
    have b_lt := b.toNat_lt
    rw [decodeChars]
    · exact decodeTwo_eq_some_iff.mpr ⟨a, b, rfl, rfl, rfl, rfl⟩
    · exact symbol_ne_pad (by omega)
  | case4 a b c rest ih =>
    have full := decodeThree_eq_some_iff.mpr ⟨a, b, c, rfl, rfl, rfl, rfl, rfl⟩
    have last_ne : symbol (c.toNat % 64) ≠ '=' := symbol_ne_pad (by omega)
    rw [decodeChars, full, ih]
    · rfl
    · exact fun _ same _ => last_ne same
    · exact fun same _ => last_ne same

theorem encodeChars_of_decodeChars {characters : List Char} {bytes : Bytes}
    (decoded : decodeChars characters = some bytes) : encodeChars bytes = characters := by
  fun_induction decodeChars characters generalizing bytes with
  | case1 =>
    cases decoded
    rfl
  | case2 a b =>
    obtain ⟨_, rfl, rfl, rfl⟩ := decodeOne_eq_some_iff.mp decoded
    rfl
  | case3 a b c =>
    obtain ⟨_, _, rfl, rfl, rfl, rfl⟩ := decodeTwo_eq_some_iff.mp decoded
    rfl
  | case4 a b c d rest _ _ ih =>
    simp only [Option.bind_eq_bind, Option.bind_eq_some_iff, Option.some.injEq] at decoded
    obtain ⟨group, group_eq, tail, tail_eq, rfl⟩ := decoded
    obtain ⟨_, _, _, rfl, rfl, rfl, rfl, rfl⟩ := decodeThree_eq_some_iff.mp group_eq
    simp only [List.cons_append, List.nil_append, encodeChars, ih tail_eq]
  | case5 => cases decoded

/-- A text is read as a byte string exactly when it is the spelling of it. -/
theorem decode_eq_some_iff {text : String} {bytes : Bytes} :
    decode text = some bytes ↔ text = encode bytes := by
  constructor
  · intro decoded
    rw [encode, encodeChars_of_decodeChars decoded, String.ofList_toList]
  · rintro rfl
    rw [decode, encode, String.toList_ofList, decodeChars_encodeChars]

theorem decode_encode (bytes : Bytes) : decode (encode bytes) = some bytes :=
  decode_eq_some_iff.mpr rfl

theorem mapM_decode_map_encode (all : List Bytes) : (all.map encode).mapM decode = some all := by
  induction all with
  | nil => rfl
  | cons first rest ih => simp only [List.map_cons, List.mapM_cons, decode_encode, ih]; rfl

end Base64
end Countersign
