import Mathlib.Data.List.Induction
import Mathlib.Data.Nat.Digits.Defs
import Mathlib.Tactic.Ring
import Countersign.Json.Numeral

/-!
# Digits and the numbers they spell

A number is the value of its decimal digits, of which the first is not zero unless it is the only
one.
-/

namespace Countersign
namespace Json
namespace Digit

theorem ofChar?_toChar (digit : Digit) : ofChar? digit.toChar = some digit := by
  decide +revert

theorem ofChar?_eq_some_iff {character : Char} {digit : Digit} :
    ofChar? character = some digit ↔ character = digit.toChar := by
  constructor
  · intro read
    obtain ⟨within, same⟩ := Option.dite_none_right_eq_some.mp read
    cases same
    have code : 48 + (character.toNat - 48) = character.toNat := by omega
    rw [toChar, code, Char.ofNat_toNat]
  · rintro rfl
    exact ofChar?_toChar digit

theorem toChar_ofNat (number : Nat) (below : number < 10) :
    toChar ⟨number, below⟩ = Nat.digitChar number := by
  have all : ∀ digit : Digit, toChar digit = Nat.digitChar digit.val := by decide
  exact all ⟨number, below⟩

private theorem foldl_eq (digits : List Digit) (start : Nat) :
    digits.foldl (fun sum digit => sum * 10 + digit.val) start =
      start * 10 ^ digits.length + value digits := by
  induction digits generalizing start with
  | nil => simp [value]
  | cons first rest ih =>
    simp only [value, List.foldl_cons, List.length_cons, ih (start * 10 + first.val),
      ih (0 * 10 + first.val)]
    rw [Nat.pow_succ']
    ring

theorem value_append (front back : List Digit) :
    value (front ++ back) = value front * 10 ^ back.length + value back := by
  rw [value, List.foldl_append, foldl_eq]
  rfl

theorem value_singleton (digit : Digit) : value [digit] = digit.val := by
  simp [value]

theorem ofNat_of_lt {number : Nat} (below : number < 10) : ofNat number = [⟨number, below⟩] := by
  rw [ofNat, Nat.toDigits_of_lt_base below, ← toChar_ofNat number below]
  simp [ofChar?_toChar]

theorem ofNat_of_le {number : Nat} (above : 10 ≤ number) :
    ofNat number = ofNat (number / 10) ++ [⟨number % 10, by omega⟩] := by
  rw [ofNat, Nat.toDigits_of_base_le (by decide) above, List.filterMap_append,
    ← toChar_ofNat (number % 10) (by omega)]
  simp [ofChar?_toChar, ofNat]

@[simp]
theorem value_ofNat (number : Nat) : value (ofNat number) = number := by
  induction number using Nat.strong_induction_on with
  | _ number ih =>
    by_cases below : number < 10
    · rw [ofNat_of_lt below, value_singleton]
    · rw [ofNat_of_le (by omega), value_append, ih (number / 10) (by omega), value_singleton,
        List.length_singleton, pow_one]
      dsimp only
      omega

theorem toDigits_eq_map (number : Nat) :
    Nat.toDigits 10 number = (ofNat number).map toChar := by
  induction number using Nat.strong_induction_on with
  | _ number ih =>
    by_cases below : number < 10
    · rw [Nat.toDigits_of_lt_base below, ofNat_of_lt below, List.map_singleton,
        toChar_ofNat number below]
    · have above : 10 ≤ number := Nat.le_of_not_lt below
      rw [Nat.toDigits_of_base_le (by decide) above, ofNat_of_le above, List.map_append,
        ih (number / 10) (by omega), List.map_singleton, toChar_ofNat]

theorem mapM_ofChar?_map_toChar (digits : List Digit) :
    (digits.map toChar).mapM ofChar? = some digits := by
  induction digits with
  | nil => rfl
  | cons first rest ih => simp [ofChar?_toChar, ih]

theorem mapM_ofChar?_eq_some_iff {characters : List Char} {digits : List Digit} :
    characters.mapM ofChar? = some digits ↔ characters = digits.map toChar := by
  constructor
  · intro read
    induction characters generalizing digits with
    | nil =>
      cases read
      rfl
    | cons first rest ih =>
      rw [List.mapM_cons] at read
      obtain ⟨digit, first_read, read⟩ := Option.bind_eq_some_iff.mp read
      obtain ⟨more, rest_read, same⟩ := Option.bind_eq_some_iff.mp read
      cases same
      rw [ofChar?_eq_some_iff.mp first_read, ih rest_read, List.map_cons]
  · rintro rfl
    exact mapM_ofChar?_map_toChar digits

/-- The number that digits denote: each counts by its place, the last one for itself. -/
def placeValue (digits : List Digit) : Nat :=
  Nat.ofDigits 10 (digits.reverse.map Fin.val)

theorem value_eq_placeValue (digits : List Digit) : value digits = placeValue digits := by
  rw [placeValue, Nat.ofDigits_eq_foldr, List.foldr_map, List.foldr_reverse, value]
  congr 1
  funext sum digit
  rw [Nat.cast_id]
  ring

theorem exists_ofNat_eq_cons {number : Nat} (positive : 0 < number) :
    ∃ first rest, ofNat number = first :: rest ∧ first ≠ 0 := by
  induction number using Nat.strong_induction_on with
  | _ number ih =>
    by_cases below : number < 10
    · refine ⟨_, [], ofNat_of_lt below, fun zero => ?_⟩
      have := congrArg Fin.val zero
      dsimp at this
      omega
    · obtain ⟨first, rest, split, nonzero⟩ := ih (number / 10) (by omega) (by omega)
      exact ⟨first, rest ++ [_], by rw [ofNat_of_le (by omega), split, List.cons_append], nonzero⟩

/-- The digits before a point: a single zero, or digits that do not begin with zero. -/
inductive IsWhole : List Digit → Prop
  | zero : IsWhole [0]
  | positive {first : Digit} (nonzero : first ≠ 0) (rest : List Digit) : IsWhole (first :: rest)

theorem isWhole_ofNat (number : Nat) : IsWhole (ofNat number) := by
  by_cases zero : number = 0
  · subst zero
    exact .zero
  · obtain ⟨first, rest, split, nonzero⟩ := exists_ofNat_eq_cons (by omega : 0 < number)
    rw [split]
    exact .positive nonzero rest

end Digit
end Json
end Countersign
