import Countersign.Json.Lexer
import Countersign.Proofs.Json.Digit

/-!
# Numerals are read back

A numeral that keeps the rules of JSON is read back from its characters, wherever a numeral can end
there; one that does not keep them is not read.  Integers of 64 bits are spelled by numerals that
denote them.
-/

namespace Countersign
namespace Json

open Lexer

/-- A source at which no digit stands. -/
def Source.NoDigit (source : Source) : Prop :=
  ∀ character rest, source = some character :: rest → Digit.ofChar? character = none

/-- A source that cannot continue a numeral, nor begin with a sign. -/
def Source.EndsNumeral (source : Source) : Prop :=
  ∀ character rest, source = some character :: rest → Digit.ofChar? character = none ∧
    character ≠ '.' ∧ character ≠ 'e' ∧ character ≠ 'E' ∧ character ≠ '-'

theorem Source.EndsNumeral.noDigit {source : Source} (ends : source.EndsNumeral) :
    source.NoDigit :=
  fun character rest split => (ends character rest split).1

theorem Source.noDigit_cons {character : Char} {rest : Source}
    (other : Digit.ofChar? character = none) : Source.NoDigit (some character :: rest) := by
  intro _ _ split
  cases split
  exact other

/-- The source of digits. -/
def Source.ofDigits (digits : List Digit) : Source :=
  (digits.map Digit.toChar).map some

namespace Lexer

theorem readDigits_ofDigits (digits : List Digit) {rest : Source} (stops : rest.NoDigit) :
    readDigits (Source.ofDigits digits ++ rest) = (digits, rest) := by
  induction digits with
  | nil =>
    cases rest with
    | nil => rfl
    | cons first after =>
      cases first with
      | none => rfl
      | some character => simp [Source.ofDigits, readDigits, stops character after rfl]
  | cons digit more ih =>
    simp only [Source.ofDigits, List.map_cons, List.cons_append, readDigits,
      Digit.ofChar?_toChar] at ih ⊢
    rw [ih]

theorem readWhole_eq_some_iff {source rest : Source} {digits : List Digit} :
    readWhole source = some (digits, rest) ↔
      readDigits source = (digits, rest) ∧ Digit.IsWhole digits := by
  unfold readWhole
  split
  · rename_i empty
    rw [empty]
    constructor
    · exact fun impossible => nomatch impossible
    · rintro ⟨same, whole⟩
      cases same
      cases whole
  · rename_i zeros
    rw [zeros]
    constructor
    · exact fun impossible => nomatch impossible
    · rintro ⟨same, whole⟩
      cases same
      cases whole with
      | positive nonzero => exact absurd rfl nonzero
  · rename_i found after nonempty no_zeros read
    rw [read, Option.some.injEq]
    constructor
    · intro same
      cases same
      refine ⟨rfl, ?_⟩
      cases digits with
      | nil => exact (nonempty rfl).elim
      | cons first more =>
        by_cases zero : first = 0
        · subst zero
          cases more with
          | nil => exact .zero
          | cons second more => exact (no_zeros second more rfl).elim
        · exact .positive zero more
    · exact fun same => same.1

/-- The source of a point with the digits after it. -/
def fractionSource : Option (List Digit) → Source
  | none => []
  | some digits => some '.' :: Source.ofDigits digits

/-- The source of an exponent. -/
def exponentSource : Option Exponent → Source
  | none => []
  | some exponent =>
    some 'e' :: some (if exponent.negative then '-' else '+') :: Source.ofDigits exponent.digits

theorem readFraction_fractionSource (fraction : Option (List Digit)) {rest : Source}
    (stops : rest.NoDigit) (pointless : ∀ after, rest ≠ some '.' :: after) :
    readFraction (fractionSource fraction ++ rest) =
      if fraction = some [] then none else some (fraction, rest) := by
  cases fraction with
  | none =>
    rw [if_neg (by simp), fractionSource, List.nil_append]
    unfold readFraction
    split
    · exact absurd rfl (pointless _)
    · rfl
  | some digits =>
    rw [fractionSource, List.cons_append, readFraction, readDigits_ofDigits digits stops]
    cases digits with
    | nil => rfl
    | cons first more => simp

theorem readExponent_exponentSource (exponent : Option Exponent) {rest : Source}
    (ends : rest.EndsNumeral) :
    readExponent (exponentSource exponent ++ rest) =
      if exponent.any (fun exponent => exponent.digits.isEmpty) then none
      else some (exponent, rest) := by
  cases exponent with
  | none =>
    rw [exponentSource, List.nil_append]
    unfold readExponent
    split
    · rename_i character after
      obtain ⟨-, -, no_e, no_E, -⟩ := ends character after rfl
      rw [if_neg (by simp [no_e, no_E])]
      rfl
    · rfl
  | some exponent =>
    obtain ⟨negative, digits⟩ := exponent
    have sign_read : readSign (some (if negative then '-' else '+') ::
        (Source.ofDigits digits ++ rest)) = (negative, Source.ofDigits digits ++ rest) := by
      cases negative <;> rfl
    simp only [exponentSource, List.cons_append, readExponent, true_or, if_true, sign_read,
      readDigits_ofDigits digits ends.noDigit]
    cases digits <;> rfl

end Lexer

/-- A numeral that keeps the rules of JSON. -/
structure Numeral.IsSpelled (numeral : Numeral) : Prop where
  /-- The digits before the point are a single zero or do not begin with zero. -/
  whole : Digit.IsWhole numeral.whole
  /-- A point is followed by digits. -/
  fraction : numeral.fraction ≠ some []
  /-- An exponent has digits. -/
  exponent : numeral.exponent.any (fun exponent => exponent.digits.isEmpty) = false

namespace Lexer

private theorem fractionSource_noDigit (fraction : Option (List Digit)) {rest : Source}
    (stops : rest.NoDigit) : (fractionSource fraction ++ rest).NoDigit := by
  cases fraction with
  | none => exact stops
  | some digits => exact Source.noDigit_cons (by decide)

private theorem exponentSource_noDigit (exponent : Option Exponent) {rest : Source}
    (ends : rest.EndsNumeral) : (exponentSource exponent ++ rest).NoDigit := by
  cases exponent with
  | none => exact ends.noDigit
  | some exponent => exact Source.noDigit_cons (by decide)

private theorem exponentSource_pointless (exponent : Option Exponent) {rest : Source}
    (ends : rest.EndsNumeral) (after : Source) :
    exponentSource exponent ++ rest ≠ some '.' :: after := by
  cases exponent with
  | none => exact fun same => (ends '.' after same).2.1 rfl
  | some exponent => simp [exponentSource]

theorem readUnsigned_eq_some_iff {numeral found : Numeral} {rest after : Source}
    (ends : rest.EndsNumeral) :
    readUnsigned numeral.negative (Source.ofDigits numeral.whole ++
      (fractionSource numeral.fraction ++ (exponentSource numeral.exponent ++ rest))) =
        some (found, after) ↔
      numeral.IsSpelled ∧ found = numeral ∧ after = rest := by
  have exponent_stops := exponentSource_noDigit numeral.exponent ends
  simp only [readUnsigned, Option.bind_eq_bind, Option.bind_eq_some_iff, Prod.exists,
    readWhole_eq_some_iff,
    readDigits_ofDigits numeral.whole (fractionSource_noDigit numeral.fraction exponent_stops)]
  constructor
  · rintro ⟨whole, _, ⟨same, isWhole⟩, fraction, _, fraction_read, exponent, _, exponent_read, done⟩
    cases same
    rw [readFraction_fractionSource numeral.fraction exponent_stops
      (exponentSource_pointless numeral.exponent ends)] at fraction_read
    split at fraction_read
    · cases fraction_read
    · rename_i fraction_ok
      cases fraction_read
      rw [readExponent_exponentSource numeral.exponent ends] at exponent_read
      split at exponent_read
      · cases exponent_read
      · rename_i exponent_ok
        cases exponent_read
        cases done
        exact ⟨⟨isWhole, fraction_ok, by simpa using exponent_ok⟩, rfl, rfl⟩
  · rintro ⟨spelled, rfl, rfl⟩
    refine ⟨_, _, ⟨rfl, spelled.whole⟩, found.fraction, exponentSource found.exponent ++ after, ?_,
      found.exponent, after, ?_, rfl⟩
    · rw [readFraction_fractionSource found.fraction exponent_stops
        (exponentSource_pointless found.exponent ends), if_neg spelled.fraction]
    · rw [readExponent_exponentSource found.exponent ends, spelled.exponent]
      rfl

end Lexer

theorem Numeral.map_toChars (numeral : Numeral) :
    numeral.toChars.map some = (if numeral.negative then [some '-'] else []) ++
      (Source.ofDigits numeral.whole ++
        (Lexer.fractionSource numeral.fraction ++ Lexer.exponentSource numeral.exponent)) := by
  obtain ⟨negative, whole, fraction, exponent⟩ := numeral
  cases negative <;> cases fraction <;> cases exponent <;>
    simp [Numeral.toChars, Source.ofDigits, Lexer.fractionSource, Lexer.exponentSource]

private theorem toChar_ne_minus (digit : Digit) : digit.toChar ≠ '-' := by
  decide +revert

private theorem Numeral.signless (numeral : Numeral) {rest : Source} (ends : rest.EndsNumeral)
    (after : Source) :
    Source.ofDigits numeral.whole ++ (Lexer.fractionSource numeral.fraction ++
      (Lexer.exponentSource numeral.exponent ++ rest)) ≠ some '-' :: after := by
  obtain ⟨negative, whole, fraction, exponent⟩ := numeral
  cases whole with
  | cons first more => simp [Source.ofDigits, toChar_ne_minus]
  | nil =>
    cases fraction with
    | some digits => simp [Source.ofDigits, Lexer.fractionSource]
    | none =>
      cases exponent with
      | some exponent => simp [Source.ofDigits, Lexer.fractionSource, Lexer.exponentSource]
      | none => exact fun same => (ends '-' after same).2.2.2.2 rfl

/-- The characters of a numeral are read as that numeral, if it keeps the rules of JSON. -/
theorem Lexer.readNumeral_eq_some_iff {numeral found : Numeral} {rest after : Source}
    (ends : rest.EndsNumeral) :
    readNumeral (numeral.toChars.map some ++ rest) = some (found, after) ↔
      numeral.IsSpelled ∧ found = numeral ∧ after = rest := by
  have unsigned := @readUnsigned_eq_some_iff numeral found rest after ends
  rw [Numeral.map_toChars]
  cases negative : numeral.negative with
  | true =>
    rw [negative] at unsigned
    simpa [readNumeral] using unsigned
  | false =>
    rw [negative] at unsigned
    simp only [Bool.false_eq_true, if_false, List.nil_append, List.append_assoc]
    rw [← unsigned]
    unfold readNumeral
    split
    · rename_i after signed
      exact absurd signed (numeral.signless ends after)
    · rfl

namespace Numeral

/-- A numeral begins with a sign or a digit. -/
theorem IsSpelled.exists_toChars_eq_cons {numeral : Numeral} (spelled : numeral.IsSpelled) :
    ∃ first more, numeral.toChars = first :: more ∧
      (first = '-' ∨ ∃ digit : Digit, first = digit.toChar) := by
  obtain ⟨negative, whole, fraction, exponent⟩ := numeral
  have first_digit : ∃ digit rest, whole = digit :: rest := by
    cases spelled.whole with
    | zero => exact ⟨0, [], rfl⟩
    | positive _ rest => exact ⟨_, rest, rfl⟩
  obtain ⟨digit, rest, rfl⟩ := first_digit
  cases negative with
  | true => exact ⟨'-', _, rfl, .inl rfl⟩
  | false => exact ⟨_, _, rfl, .inr ⟨digit, rfl⟩⟩

theorem isSpelled_ofInt (value : Int) : (ofInt value).IsSpelled :=
  ⟨Digit.isWhole_ofNat _, by simp [ofInt], rfl⟩

theorem denotation?_ofInt_natural {value : Nat} (small : value ≤ maxNatural) :
    (ofInt value).denotation? = some (.natural value) := by
  have integer : (ofInt value).integer? = some (value : Int) := by
    simp [integer?, ofInt]
  unfold denotation?
  rw [integer]
  dsimp only
  rw [if_pos ⟨by omega, by omega⟩, Int.toNat_natCast]

theorem denotation?_ofInt_negative {value : Int} (least : minInt64 ≤ value) (below : value < 0) :
    (ofInt value).denotation? = some (.negative value) := by
  have magnitude : -(value.natAbs : Int) = value := by omega
  have nonzero : value.natAbs ≠ 0 := by omega
  have integer : (ofInt value).integer? = some value := by
    simp only [integer?, ofInt, below, Digit.value_ofNat, decide_true, Option.isSome_none,
      Bool.false_eq_true, or_self, if_false, if_true, nonzero, magnitude]
  unfold denotation?
  rw [integer]
  dsimp only
  rw [if_neg (by omega), if_pos ⟨least, below⟩]

end Numeral
end Json
end Countersign
