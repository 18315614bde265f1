import Countersign.Text.Split

/-!
# Punycode

A label with characters beyond ASCII is written in ASCII: the ASCII characters first, and then for
each other character, in the order of their numbers, the distance to its place as a number of
variable length.  Reading it back puts the characters into their places one by one.
-/

namespace Countersign
namespace Punycode

/-- The digit of a number below 36: letters first, then decimal digits. -/
def digit (value : Nat) : Char :=
  if value < 26 then Char.ofNat (97 + value) else Char.ofNat (22 + value)

/-- The threshold of the digit at a place, which decides whether it is the last one. -/
def threshold (place bias : Nat) : Nat :=
  if place ≤ bias then 1 else if bias + 26 ≤ place then 26 else place - bias

/-- The digits of a number of variable length. -/
def digits (bias place value : Nat) : List Char :=
  let limit := threshold place bias
  if value < limit then [digit value]
  else digit (limit + (value - limit) % (36 - limit)) ::
    digits bias (place + 36) ((value - limit) / (36 - limit))
termination_by value
decreasing_by
  have positive : 0 < threshold place bias := by
    unfold threshold
    split
    · omega
    · split <;> omega
  have quotient := Nat.div_le_self (value - threshold place bias) (36 - threshold place bias)
  simp only [limit] at *
  omega

/-- Divides a number by 35 until it is small; gives the places this takes and the rest. -/
def shrink (value places : Nat) : Nat × Nat :=
  if 455 < value then shrink (value / 35) (places + 36) else (places, value)
termination_by value
decreasing_by exact Nat.div_lt_self (by omega) (by omega)

/-- The bias after a number has been written. -/
def adapt (value written : Nat) (first : Bool) : Nat :=
  let damped := if first then value / 700 else value / 2
  let (places, rest) := shrink (damped + damped / written) 0
  places + 36 * rest / (rest + 38)

/-- What has been written of a label. -/
structure Progress where
  /-- The digits so far. -/
  output : List Char
  /-- The distance to the next place. -/
  delta : Nat
  /-- The current bias. -/
  bias : Nat
  /-- How many characters have been written. -/
  written : Nat

/-- Passes one character of the label while the characters with a given number are written. -/
def pass (basic number : Nat) (progress : Progress) (character : Char) : Progress :=
  if character.toNat < number then { progress with delta := progress.delta + 1 }
  else if character.toNat = number then
    { output := progress.output ++ digits progress.bias 36 progress.delta
      delta := 0
      bias := adapt progress.delta (progress.written + 1) (progress.written = basic)
      written := progress.written + 1 }
  else progress

/-- Writes the characters with the listed numbers, which ascend; `next` is the number that the
distance counts from. -/
def passAll (label : List Char) (basic : Nat) : List Nat → (next : Nat) → Progress → Progress
  | [], _, progress => progress
  | number :: rest, next, progress =>
    let distance := (number - next) * (progress.written + 1)
    let moved := { progress with delta := progress.delta + distance }
    let passed := label.foldl (pass basic number) moved
    passAll label basic rest (number + 1) { passed with delta := passed.delta + 1 }

/-- Writes a label in ASCII. -/
def encode (label : List Char) : List Char :=
  let ascii := label.filter fun character => character.toNat < 128
  let others := (label.filter fun character => 128 ≤ character.toNat).map Char.toNat
  let numbers := (others.mergeSort (· ≤ ·)).eraseDups
  let start : Progress := ⟨if ascii.isEmpty then [] else ascii ++ ['-'], 0, 72, ascii.length⟩
  (passAll label ascii.length numbers 128 start).output

/-- The value of a digit of either case. -/
def digitValue? (character : Char) : Option Nat :=
  if character.isLower then some (character.toNat - 97)
  else if character.isUpper then some (character.toNat - 65)
  else if character.isDigit then some (character.toNat - 22)
  else none

/-- Reads a number of variable length, of which the digits so far make `value` and the next one
counts `weight` times; gives the number and what is left. -/
def readNumber? (bias place weight value : Nat) : List Char → Option (Nat × List Char)
  | [] => none
  | character :: rest => do
    let digit ← digitValue? character
    let sum := value + digit * weight
    let limit := threshold place bias
    if digit < limit then some (sum, rest)
    else readNumber? bias (place + 36) (weight * (36 - limit)) sum rest

/-- What has been read of a label. -/
structure Reading where
  /-- The characters so far. -/
  label : List Char
  /-- The number of the last character that was put in. -/
  number : Nat
  /-- The place behind that character. -/
  position : Nat
  /-- The current bias. -/
  bias : Nat

/-- Puts the character at a distance from the last one into its place. -/
def Reading.insert? (reading : Reading) (sum : Nat) : Option Reading :=
  let places := reading.label.length + 1
  let number := reading.number + sum / places
  let position := sum % places
  if number.isValidChar then
    some {
      label := reading.label.take position ++ Char.ofNat number :: reading.label.drop position
      number
      position := position + 1
      bias := adapt (sum - reading.position) places (reading.position = 0) }
  else none

/-- Reads digits until none is left; `fuel` bounds the number of characters. -/
def readAll? (reading : Reading) (digits : List Char) : (fuel : Nat) → Option (List Char)
  | 0 => if digits.isEmpty then some reading.label else none
  | fuel + 1 =>
    if digits.isEmpty then some reading.label
    else do
      let (sum, rest) ← readNumber? reading.bias 36 1 reading.position digits
      readAll? (← reading.insert? sum) rest fuel

/-- Divides a written label into its ASCII characters and the digits; a hyphen at the very front is
not taken for the one between them. -/
def divide (written : List Char) : List Char × List Char :=
  match Split.atLast '-' written with
  | some (first :: ascii, digits) => (first :: ascii, digits)
  | _ => ([], written)

/-- Reads a label written in ASCII. -/
def decode? (written : List Char) : Option (List Char) :=
  let (ascii, digits) := divide written
  readAll? ⟨ascii, 128, 0, 72⟩ digits digits.length

end Punycode
end Countersign
