import Countersign.Json.Int64Text
import Countersign.Proofs.Json.Digit
import Countersign.Proofs.Json.Recovery

/-!
# Integers written as strings

A 64-bit integer is written as its decimal digits, with a sign if it is negative, and read back from
them.  What is read at all is a numeral without fraction and exponent, or a string of digits that
may have a sign, and of these exactly the ones that denote an integer of 64 bits.
-/

namespace Countersign
namespace Json
namespace Int64Text

theorem readDigits?_eq_some_iff {characters : List Char} {number : Nat} :
    readDigits? characters = some number ↔
      ∃ digits : List Digit, digits ≠ [] ∧ characters = digits.map Digit.toChar ∧
        number = Digit.placeValue digits := by
  rw [readDigits?, Option.ite_none_left_eq_some, Option.map_eq_some_iff]
  simp only [Digit.mapM_ofChar?_eq_some_iff, Digit.value_eq_placeValue]
  constructor
  · rintro ⟨present, digits, rfl, rfl⟩
    exact ⟨digits, by simpa using present, rfl, rfl⟩
  · rintro ⟨digits, present, rfl, rfl⟩
    exact ⟨by simpa using present, digits, rfl, rfl⟩

/-- What may stand in front of the digits of a text. -/
inductive Sign where
  | absent
  | plus
  | minus

namespace Sign

/-- The characters of a sign. -/
def chars : Sign → List Char
  | absent => []
  | plus => ['+']
  | minus => ['-']

/-- The integer that a sign makes of a number. -/
def apply : Sign → Nat → Int
  | absent, number => number
  | plus, number => number
  | minus, number => -number

end Sign

/-- A digit is no sign, so digits without a sign are read as they are. -/
theorem readInt?_map_toChar {digits : List Digit} (present : digits ≠ []) :
    readInt? (digits.map Digit.toChar) = some (Digit.placeValue digits : Int) := by
  have read : readDigits? (digits.map Digit.toChar) = some (Digit.placeValue digits) :=
    readDigits?_eq_some_iff.mpr ⟨digits, present, rfl, rfl⟩
  have unsigned (digit : Digit) : digit.toChar ≠ '-' ∧ digit.toChar ≠ '+' := by decide +revert
  cases digits with
  | nil => exact absurd rfl present
  | cons first rest =>
    rw [List.map_cons] at read ⊢
    rw [readInt?, read]
    · rfl
    · exact fun _ same => (unsigned first).1 (List.cons.inj same).1
    · exact fun _ same => (unsigned first).2 (List.cons.inj same).1

theorem readInt?_eq_some_iff {characters : List Char} {number : Int} :
    readInt? characters = some number ↔
      ∃ (sign : Sign) (digits : List Digit), digits ≠ [] ∧
        characters = sign.chars ++ digits.map Digit.toChar ∧
        number = sign.apply (Digit.placeValue digits) := by
  constructor
  · intro read
    unfold readInt? at read
    split at read
    all_goals
      obtain ⟨_, found, rfl⟩ := Option.map_eq_some_iff.mp read
      obtain ⟨magnitude, spelled, same⟩ := Option.bind_eq_some_iff.mp found
      cases same
      obtain ⟨digits, present, rfl, rfl⟩ := readDigits?_eq_some_iff.mp spelled
    · exact ⟨.minus, digits, present, rfl, rfl⟩
    · exact ⟨.plus, digits, present, rfl, rfl⟩
    · exact ⟨.absent, digits, present, rfl, rfl⟩
  · rintro ⟨sign, digits, present, rfl, rfl⟩
    have read : readDigits? (digits.map Digit.toChar) = some (Digit.placeValue digits) :=
      readDigits?_eq_some_iff.mpr ⟨digits, present, rfl, rfl⟩
    cases sign with
    | absent => exact readInt?_map_toChar present
    | plus => simp [Sign.chars, Sign.apply, readInt?, read]
    | minus => simp [Sign.chars, Sign.apply, readInt?, read]

/-- The decimal text of an integer: a minus stands before negative numbers only, and no zero before
other digits. -/
def IsCanonical (text : String) (number : Int) : Prop :=
  ∃ digits, Digit.IsWhole digits ∧ Digit.placeValue digits = number.natAbs ∧
    text.toList = (if number < 0 then ['-'] else []) ++ digits.map Digit.toChar

theorem isCanonical_write (value : Int64) : IsCanonical (write value) value.toInt := by
  refine ⟨Digit.ofNat value.toInt.natAbs, Digit.isWhole_ofNat _, ?_, ?_⟩
  · rw [← Digit.value_eq_placeValue, Digit.value_ofNat]
  · rw [write, String.toList_ofList, Digit.toDigits_eq_map]

/-- A canonical text is read as its integer. -/
theorem IsCanonical.readInt? {text : String} {number : Int} (canonical : IsCanonical text number) :
    readInt? text.toList = some number := by
  obtain ⟨digits, isWhole, denotes, spelled⟩ := canonical
  have present : digits ≠ [] := by
    rintro rfl
    cases isWhole
  rw [spelled]
  refine readInt?_eq_some_iff.mpr
    ⟨if number < 0 then .minus else .absent, digits, present, ?_, ?_⟩
  · split <;> rfl
  · rw [denotes]
    split <;> simp only [Sign.apply] <;> omega

theorem within (value : Int64) : minInt64 ≤ value.toInt ∧ value.toInt ≤ maxInt64 :=
  ⟨Int64.le_toInt value, Int.le_of_lt_add_one (Int64.toInt_lt value)⟩

theorem ofInt_eq_iff {number : Int} {value : Int64}
    (bounded : minInt64 ≤ number ∧ number ≤ maxInt64) :
    Int64.ofInt number = value ↔ number = value.toInt := by
  have restored : (Int64.ofInt number).toInt = number :=
    Int64.toInt_ofInt_of_le bounded.1 (Int.lt_add_one_of_le bounded.2)
  rw [← Int64.toInt_inj, restored]

theorem read?_eq_some_iff {text : String} {value : Int64} :
    read? text = some value ↔ readInt? text.toList = some value.toInt := by
  simp only [read?, Option.bind_eq_bind, Option.bind_eq_some_iff, Option.ite_none_right_eq_some,
    Option.some.injEq]
  constructor
  · rintro ⟨number, read, bounded, same⟩
    rw [read, (ofInt_eq_iff bounded).mp same]
  · intro read
    exact ⟨value.toInt, read, within value, Int64.ofInt_toInt value⟩

theorem read?_write (value : Int64) : read? (write value) = some value :=
  read?_eq_some_iff.mpr (isCanonical_write value).readInt?

theorem recovers : Decoder.Recovers decoder toDocument 0 := by
  refine ⟨fun value => ?_, fun value => .string _⟩
  rw [toDocument, decoder, read?_write]

/-- How documents spell integers: as a numeral without fraction and exponent, which is not minus
zero, or as a string of digits that may have a sign. -/
inductive Spells : Document → Int → Prop
  | natural (digits : List Digit) :
    Spells (.number ⟨false, digits, none, none⟩) (Digit.placeValue digits)
  | negative {digits : List Digit} (nonzero : Digit.placeValue digits ≠ 0) :
    Spells (.number ⟨true, digits, none, none⟩) (-Digit.placeValue digits)
  | text (sign : Sign) {digits : List Digit} (present : digits ≠ []) :
    Spells (.string (String.ofList (sign.chars ++ digits.map Digit.toChar)))
      (sign.apply (Digit.placeValue digits))

theorem spells_string_iff {text : String} {number : Int} :
    Spells (.string text) number ↔ readInt? text.toList = some number := by
  rw [readInt?_eq_some_iff]
  constructor
  · intro spells
    cases spells with
    | text sign present => exact ⟨sign, _, present, String.toList_ofList, rfl⟩
  · rintro ⟨sign, digits, present, spelled, rfl⟩
    rw [← String.ofList_toList (s := text), spelled]
    exact .text sign present

theorem spells_number_iff {numeral : Numeral} {number : Int} :
    Spells (.number numeral) number ↔ numeral.integer? = some number := by
  obtain ⟨negative, whole, fraction, exponent⟩ := numeral
  simp only [Numeral.integer?, Digit.value_eq_placeValue]
  constructor
  · intro spells
    cases spells with
    | natural => simp
    | negative nonzero => simp [nonzero]
  · intro denoted
    split at denoted
    · cases denoted
    · rename_i plain
      obtain ⟨rfl, rfl⟩ : fraction = none ∧ exponent = none := by simpa using plain
      split at denoted
      · rename_i minus
        obtain rfl : negative = true := minus
        split at denoted
        · cases denoted
        · rename_i nonzero
          cases denoted
          exact .negative nonzero
      · rename_i positive
        obtain rfl : negative = false := by simpa using positive
        cases denoted
        exact .natural whole

theorem int64?_eq_some_iff {numeral : Numeral} {number : Int} :
    numeral.int64? = some number ↔
      numeral.integer? = some number ∧ minInt64 ≤ number ∧ number ≤ maxInt64 := by
  simp only [Numeral.int64?, Option.bind_eq_bind, Option.bind_eq_some_iff,
    Option.ite_none_right_eq_some, Option.some.injEq]
  constructor
  · rintro ⟨_, denoted, bounded, rfl⟩
    exact ⟨denoted, bounded⟩
  · rintro ⟨denoted, bounded⟩
    exact ⟨number, denoted, bounded, rfl⟩

/-- An integer is decoded from the documents that spell it. -/
theorem decoder_eq_ok_iff {document : Document} {value : Int64} :
    decoder document = .ok value ↔ Spells document value.toInt := by
  cases document with
  | string text =>
    rw [spells_string_iff, ← read?_eq_some_iff, decoder]
    cases read? text <;> simp
  | number numeral =>
    rw [spells_number_iff, decoder, Decoder.int64]
    · cases found : numeral.int64? with
      | none =>
        simp only [reduceCtorEq, false_iff]
        intro denoted
        have := int64?_eq_some_iff.mpr ⟨denoted, within value⟩
        rw [found] at this
        cases this
      | some number =>
        obtain ⟨denoted, bounded⟩ := int64?_eq_some_iff.mp found
        simp only [Except.ok.injEq, ofInt_eq_iff bounded, denoted, Option.some.injEq]
    · exact fun _ => nofun
  | null | bool | array | object | broken =>
    refine ⟨nofun, fun spells => ?_⟩
    cases spells

theorem decoder_eq_error {document : Document} {fault : DecodeError}
    (failed : decoder document = .error fault) : fault = .malformed := by
  cases document with
  | string text =>
    rw [decoder] at failed
    split at failed <;> cases failed
    rfl
  | number numeral =>
    rw [decoder, Decoder.int64] at failed
    · split at failed <;> cases failed
      rfl
    · exact fun _ => nofun
  | null | bool | array | object | broken =>
    cases failed
    rfl

/-- The integers that documents are decoded to are those of 64 bits that they spell. -/
theorem exists_decoder_eq_ok_iff {document : Document} {number : Int} :
    (∃ value : Int64, decoder document = .ok value ∧ value.toInt = number) ↔
      Spells document number ∧ -2 ^ 63 ≤ number ∧ number < 2 ^ 63 := by
  simp only [decoder_eq_ok_iff]
  constructor
  · rintro ⟨value, spells, rfl⟩
    exact ⟨spells, Int64.le_toInt value, Int64.toInt_lt value⟩
  · rintro ⟨spells, lower, upper⟩
    have restored := Int64.toInt_ofInt_of_le lower upper
    exact ⟨Int64.ofInt number, restored.symm ▸ spells, restored⟩

/-- A document is decoded to an integer exactly when it spells the integer and the integer fits 64
bits; any other document is refused.  An integer is written as its canonical text, which is decoded
to it again. -/
theorem decodes_exactly :
    (∀ document (number : Int),
      (∃ value : Int64, decoder document = .ok value ∧ value.toInt = number) ↔
        Spells document number ∧ -2 ^ 63 ≤ number ∧ number < 2 ^ 63) ∧
    (∀ document, decoder document = .error .malformed ↔
      ∀ number, Spells document number → ¬(-2 ^ 63 ≤ number ∧ number < 2 ^ 63)) ∧
    ∀ value : Int64, ∃ text, toDocument value = .string text ∧ IsCanonical text value.toInt ∧
      decoder (.string text) = .ok value := by
  refine ⟨fun document number => exists_decoder_eq_ok_iff, fun document => ⟨?refused, ?failed⟩,
    fun value => ⟨write value, rfl, isCanonical_write value, recovers.1 value⟩⟩
  case refused =>
    intro refused number spells bounded
    obtain ⟨value, decoded, -⟩ := exists_decoder_eq_ok_iff.mpr ⟨spells, bounded⟩
    rw [refused] at decoded
    cases decoded
  case failed =>
    intro unfit
    cases outcome : decoder document with
    | ok value =>
      obtain ⟨spells, bounded⟩ := exists_decoder_eq_ok_iff.mp ⟨value, outcome, rfl⟩
      exact absurd bounded (unfit _ spells)
    | error fault => rw [decoder_eq_error outcome]

end Int64Text
end Json
end Countersign
