import Countersign.Number.Binary64

/-!
# Shortest decimals

The shortest decimal of a binary number has the fewest digits among the decimals that read back as
that number, and is the nearest of those.  On the grid of decimals with a given number of digits
only the two neighbours of the number need to be tried.
-/

namespace Countersign
namespace Binary64

/-- The decimal `digits * 10 ^ exponent`. -/
structure Decimal where
  /-- The digits, read as one natural number. -/
  digits : Nat
  /-- The power of ten. -/
  exponent : Int
  deriving DecidableEq, Repr

/-- The decimal as an exact quotient. -/
def Decimal.quotient (decimal : Decimal) : Nat × Nat :=
  if 0 ≤ decimal.exponent then (decimal.digits * Nat.pow 10 decimal.exponent.toNat, 1)
  else (decimal.digits, Nat.pow 10 (-decimal.exponent).toNat)

/-- Compares two quotients of natural numbers. -/
def quotientLE (left right : Nat × Nat) : Bool :=
  left.1 * right.2 ≤ right.1 * left.2

/-- The reals that round to a positive number, in quarters of its last place: the ends, and whether
they belong to it. -/
structure Rounding where
  /-- The lower end. -/
  lower : Nat × Nat
  /-- The upper end. -/
  upper : Nat × Nat
  /-- An even significand also takes the ends. -/
  closed : Bool

/-- The reals that round to a positive number. -/
def rounding (number : Binary64) : Rounding :=
  let (up, down) := powerOfTwo (number.exponent - 2)
  let below := if number.significand = leastFull ∧ minExponent < number.exponent then 1 else 2
  { lower := ((4 * number.significand - below) * up, down)
    upper := ((4 * number.significand + 2) * up, down)
    closed := number.significand % 2 = 0 }

/-- Whether a decimal reads back as the number. -/
def Rounding.contains (interval : Rounding) (decimal : Decimal) : Bool :=
  let value := decimal.quotient
  if interval.closed then quotientLE interval.lower value && quotientLE value interval.upper
  else !quotientLE value interval.lower && !quotientLE interval.upper value

/-- The greatest power of ten not above a positive quotient, for numbers in the finite range. -/
def leadingPower (value : Nat × Nat) : Int :=
  let power? := (List.range 633).find? fun (step : Nat) =>
    quotientLE (Decimal.quotient ⟨1, 308 - (step : Int)⟩) value
  match power? with
  | some step => 308 - (step : Int)
  | none => -324

/-- The neighbour of a positive number on the grid of step `10 ^ exponent` that reads back as the
number; of two such neighbours the nearer one, and of two equally near the even one. -/
def onGrid? (number : Binary64) (exponent : Int) : Option Decimal :=
  let value := number.quotient
  let (up, down) := Decimal.quotient ⟨1, exponent⟩
  let scaled := (value.1 * down, value.2 * up)
  let floor := scaled.1 / scaled.2
  let remainder := scaled.1 % scaled.2
  let low : Decimal := ⟨floor, exponent⟩
  let high : Decimal := ⟨floor + 1, exponent⟩
  let interval := number.rounding
  match interval.contains low, interval.contains high with
  | true, true =>
    if 2 * remainder < scaled.2 ∨ (2 * remainder = scaled.2 ∧ floor % 2 = 0) then some low
    else some high
  | true, false => some low
  | false, true => some high
  | false, false => none

/-- Drops the trailing zeros of a decimal. -/
def Decimal.trim : (fuel : Nat) → Decimal → Decimal
  | 0, decimal => decimal
  | fuel + 1, decimal =>
    if decimal.digits % 10 = 0 ∧ decimal.digits ≠ 0 then
      Decimal.trim fuel ⟨decimal.digits / 10, decimal.exponent + 1⟩
    else decimal

/-- The shortest decimal of a positive number; seventeen digits always suffice. -/
def shortest (number : Binary64) : Decimal :=
  let leading := leadingPower number.quotient
  let found := (List.range 17).findSome? fun (digits : Nat) => onGrid? number (leading - digits)
  Decimal.trim 20 (found.getD ⟨0, 0⟩)

end Binary64
end Countersign
