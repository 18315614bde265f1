import Countersign.Number.Shortest

/-!
# Numbers as JSON spells them

A numeral keeps the digits of a number, because its reading depends on how it is spelled: a spelling
without fraction and exponent denotes an integer where that fits 64 bits, and any other spelling a
binary number.
-/

namespace Countersign
namespace Json

/-- A decimal digit. -/
abbrev Digit := Fin 10

namespace Digit

/-- The ASCII character of a digit. -/
def toChar (digit : Digit) : Char :=
  Char.ofNat (48 + digit.val)

/-- The digit of an ASCII character. -/
def ofChar? (character : Char) : Option Digit :=
  if h : 48 ≤ character.toNat ∧ character.toNat < 58 then some ⟨character.toNat - 48, by omega⟩
  else none

/-- The number that digits spell. -/
def value (digits : List Digit) : Nat :=
  digits.foldl (fun sum digit => sum * 10 + digit.val) 0

/-- The decimal digits of a number, without leading zeros. -/
def ofNat (number : Nat) : List Digit :=
  (Nat.toDigits 10 number).filterMap ofChar?

end Digit

/-- The exponent of a numeral. -/
structure Exponent where
  /-- Whether the sign is minus. -/
  negative : Bool
  /-- The digits, at least one. -/
  digits : List Digit
  deriving DecidableEq, Repr

/-- A number as it is spelled. -/
structure Numeral where
  /-- Whether a minus sign stands in front. -/
  negative : Bool
  /-- The digits before the point: a single zero, or digits that do not begin with zero. -/
  whole : List Digit
  /-- The digits after the point, where there is one. -/
  fraction : Option (List Digit)
  /-- The exponent, where there is one. -/
  exponent : Option Exponent
  deriving DecidableEq, Repr

/-- What a numeral denotes. -/
inductive Number where
  /-- An integer from zero to `2 ^ 64 - 1`. -/
  | natural (value : Nat)
  /-- An integer from `-2 ^ 63` to minus one. -/
  | negative (value : Int)
  /-- A binary floating-point number. -/
  | real (value : Binary64)
  deriving DecidableEq, Repr

/-- The greatest unsigned integer of 64 bits. -/
def maxNatural : Nat := 0xFFFFFFFFFFFFFFFF

/-- The greatest signed integer of 64 bits. -/
def maxInt64 : Int := 0x7FFFFFFFFFFFFFFF

/-- The least signed integer of 64 bits. -/
def minInt64 : Int := -0x8000000000000000

/-- The greatest exponent that is told from a greater one. -/
def maxExponentAmount : Nat := 0x7FFFFFFF

namespace Numeral

/-- Reads digits into a significand as long as it fits 64 bits; gives the significand and the digits
that no longer fit. -/
def absorb (significand : Nat) : List Digit → Nat × List Digit
  | [] => (significand, [])
  | digit :: rest =>
    if significand * 10 + digit.val ≤ maxNatural then absorb (significand * 10 + digit.val) rest
    else (significand, digit :: rest)

/-- The number `significand * 10 ^ exponent`, computed by one rounding of the significand and one
multiplication or division by a rounded power of ten; a very small exponent divides in steps. -/
def scale? : (fuel : Nat) → Binary64 → Int → Option Binary64
  | 0, number, _ => some number
  | fuel + 1, number, exponent =>
    if exponent.natAbs ≤ 308 then do
      let power ← Binary64.powerOfTen? exponent.natAbs
      if 0 ≤ exponent then number.mul? power else number.div? power
    else if number.isZero then some number
    else if 0 ≤ exponent then none
    else do
      let power ← Binary64.powerOfTen? 308
      let quotient ← number.div? power
      scale? fuel quotient (exponent + 308)

/-- The absolute value of a numeral read as a binary number, or nothing beyond the finite range.
Digits beyond the first 64 bits count only by their place. -/
def magnitude? (numeral : Numeral) : Option Binary64 := do
  let (whole, surplus) := absorb 0 numeral.whole
  let (significand, unread) := absorb whole (numeral.fraction.getD [])
  let places := (numeral.fraction.getD []).length - unread.length
  let shift : Int := (surplus.length : Int) - (places : Int)
  match numeral.exponent with
  | none => (Binary64.ofNat? significand).bind fun number => scale? 8 number shift
  | some exponent =>
    let amount := Digit.value exponent.digits
    if maxExponentAmount < amount then
      if significand ≠ 0 ∧ !exponent.negative then none else some Binary64.zero
    else
      let shift := if exponent.negative then shift - amount else shift + amount
      (Binary64.ofNat? significand).bind fun number => scale? 8 number shift

/-- The integer of a numeral without fraction and exponent; minus zero is no integer. -/
def integer? (numeral : Numeral) : Option Int :=
  if numeral.fraction.isSome ∨ numeral.exponent.isSome then none
  else
    let value := Digit.value numeral.whole
    if numeral.negative then
      if value = 0 then none else some (-(value : Int))
    else some value

/-- What a numeral denotes, or nothing when that exceeds the finite range. -/
def denotation? (numeral : Numeral) : Option Number :=
  let real? := numeral.magnitude?.map fun magnitude =>
    Number.real (if numeral.negative then magnitude.neg else magnitude)
  match numeral.integer? with
  | some value =>
    if 0 ≤ value ∧ value ≤ maxNatural then some (.natural value.toNat)
    else if minInt64 ≤ value ∧ value < 0 then some (.negative value)
    else real?
  | none => real?

/-- The signed 64-bit integer of a numeral that spells one. -/
def int64? (numeral : Numeral) : Option Int := do
  let value ← numeral.integer?
  if minInt64 ≤ value ∧ value ≤ maxInt64 then some value else none

/-- The spelling of an integer. -/
def ofInt (value : Int) : Numeral :=
  ⟨value < 0, Digit.ofNat value.natAbs, none, none⟩

/-- The spelling of a decimal: positional from `1e-5` up to below `1e+16`, with at least one digit
after the point, and with an exponent elsewhere. -/
def ofDecimal (negative : Bool) (decimal : Binary64.Decimal) : Numeral :=
  let digits := Digit.ofNat decimal.digits
  let point : Int := digits.length + decimal.exponent
  if 0 < point ∧ point ≤ 16 then
    let padded := digits ++ List.replicate (point.toNat - digits.length) 0
    let fraction := padded.drop point.toNat
    ⟨negative, padded.take point.toNat, some (if fraction.isEmpty then [0] else fraction), none⟩
  else if -5 < point ∧ point ≤ 0 then
    ⟨negative, [0], some (List.replicate (-point).toNat 0 ++ digits), none⟩
  else
    let exponent := point - 1
    let fraction := digits.drop 1
    ⟨negative, digits.take 1, if fraction.isEmpty then none else some fraction,
      some ⟨exponent < 0, Digit.ofNat exponent.natAbs⟩⟩

/-- The spelling of a binary number by its shortest decimal. -/
def ofBinary (number : Binary64) : Numeral :=
  if number.isZero then ⟨number.negative, [0], some [0], none⟩
  else ofDecimal number.negative number.shortest

/-- The spelling of what a numeral may denote. -/
def ofNumber : Number → Numeral
  | .natural value => ofInt value
  | .negative value => ofInt value
  | .real value => ofBinary value

/-- The characters of a numeral; an exponent always shows its sign. -/
def toChars (numeral : Numeral) : List Char :=
  (if numeral.negative then ['-'] else []) ++ numeral.whole.map Digit.toChar ++
    (match numeral.fraction with
      | none => []
      | some digits => '.' :: digits.map Digit.toChar) ++
    (match numeral.exponent with
      | none => []
      | some exponent =>
        'e' :: (if exponent.negative then '-' else '+') :: exponent.digits.map Digit.toChar)

end Numeral
end Json
end Countersign
