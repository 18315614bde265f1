/-!
# Binary floating-point numbers of 64 bits

Finite numbers only, held as exact integers: a sign, a significand and a power of two.  Every
operation computes the exact result and rounds it once, to the nearest number and to an even
significand when two are equally near.
-/

namespace Countersign

/-- The finite number `± significand * 2 ^ exponent`. -/
structure Binary64 where
  /-- Whether the sign is minus; zero has a sign too. -/
  negative : Bool
  /-- The significand, below `2 ^ 53`. -/
  significand : Nat
  /-- The power of two, at least `-1074`. -/
  exponent : Int
  deriving DecidableEq, Repr

namespace Binary64

/-- The least significand of 53 bits. -/
def leastFull : Nat := 0x10000000000000

/-- The least exponent. -/
def minExponent : Int := -1074

/-- The greatest exponent of a finite number. -/
def maxExponent : Int := 971

/-- The number zero. -/
def zero : Binary64 := ⟨false, 0, minExponent⟩

instance : Inhabited Binary64 := ⟨zero⟩

/-- The number with its sign reversed. -/
def neg (number : Binary64) : Binary64 :=
  { number with negative := !number.negative }

/-- Whether the number is a zero of either sign. -/
def isZero (number : Binary64) : Bool :=
  number.significand = 0

/-- A quotient rounded to the nearest natural number, a half going to the even neighbour. -/
def roundQuotient (numerator denominator : Nat) : Nat :=
  let quotient := numerator / denominator
  let remainder := numerator % denominator
  if 2 * remainder > denominator ∨ (2 * remainder = denominator ∧ quotient % 2 = 1) then
    quotient + 1
  else quotient

/-- The power of two with a natural exponent, split by the sign of `exponent`. -/
def powerOfTwo (exponent : Int) : Nat × Nat :=
  if 0 ≤ exponent then (Nat.pow 2 exponent.toNat, 1) else (1, Nat.pow 2 (-exponent).toNat)

/-- The exponent at which a positive quotient has a significand of 53 bits, or the least one. -/
def scaleOf (numerator denominator : Nat) : Int :=
  let guess : Int := (numerator.log2 : Int) - denominator.log2 - 53
  let (up, down) := powerOfTwo guess
  let scale := if 2 * leastFull * (denominator * up) ≤ numerator * down then guess + 1 else guess
  max scale minExponent

/-- The positive number nearest to a quotient, or nothing beyond the finite range. -/
def ofQuotient? (numerator denominator : Nat) : Option Binary64 :=
  if numerator = 0 then some zero
  else
    let scale := scaleOf numerator denominator
    let (up, down) := powerOfTwo scale
    let significand := roundQuotient (numerator * down) (denominator * up)
    let (significand, exponent) :=
      if significand = 2 * leastFull then (leastFull, scale + 1) else (significand, scale)
    if exponent > maxExponent then none else some ⟨false, significand, exponent⟩

/-- The exact absolute value as a quotient. -/
def quotient (number : Binary64) : Nat × Nat :=
  let (up, down) := powerOfTwo number.exponent
  (number.significand * up, down)

/-- The rounded product of two absolute values. -/
def mul? (left right : Binary64) : Option Binary64 :=
  let (a, b) := left.quotient
  let (c, d) := right.quotient
  ofQuotient? (a * c) (b * d)

/-- The rounded quotient of two absolute values. -/
def div? (left right : Binary64) : Option Binary64 :=
  let (a, b) := left.quotient
  let (c, d) := right.quotient
  ofQuotient? (a * d) (b * c)

/-- The number nearest to a natural number. -/
def ofNat? (value : Nat) : Option Binary64 :=
  ofQuotient? value 1

/-- The number nearest to a power of ten. -/
def powerOfTen? (exponent : Nat) : Option Binary64 :=
  ofNat? (Nat.pow 10 exponent)

end Binary64
end Countersign
