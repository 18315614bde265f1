import Countersign.Json.Decode

/-!
# 64-bit integers as strings

A number beyond 53 bits travels as a string of decimal digits, since many readers of JSON would
round it.  Readers here also take a plain number.
-/

namespace Countersign
namespace Json
namespace Int64Text

/-- The number spelled by one or more ASCII digits. -/
def readDigits? (digits : List Char) : Option Nat :=
  if digits.isEmpty then none
  else (digits.mapM Digit.ofChar?).map Digit.value

/-- The integer spelled by digits with an optional sign. -/
def readInt? : List Char → Option Int
  | '-' :: digits => (readDigits? digits).map fun value => -(value : Int)
  | '+' :: digits => (readDigits? digits).map fun value => (value : Int)
  | digits => (readDigits? digits).map fun value => (value : Int)

/-- The 64-bit integer that a text spells. -/
def read? (text : String) : Option Int64 := do
  let value ← readInt? text.toList
  if minInt64 ≤ value ∧ value ≤ maxInt64 then some (Int64.ofInt value) else none

/-- The canonical spelling of an integer. -/
def write (value : Int64) : String :=
  String.ofList ((if value.toInt < 0 then ['-'] else []) ++ Nat.toDigits 10 value.toInt.natAbs)

/-- Decodes an integer written as a string or as a number. -/
def decoder : Decoder Int64
  | .string text =>
    match read? text with
    | some value => .ok value
    | none => .error .malformed
  | document => Decoder.int64 document

/-- The document of an integer. -/
def toDocument (value : Int64) : Document :=
  .string (write value)

end Int64Text
end Json
end Countersign
