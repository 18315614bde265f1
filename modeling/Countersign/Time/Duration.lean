/-!
# Durations

A duration is a number of nanoseconds below two to the power of 64 seconds.  Sums and multiples that
would be longer stop at the longest duration.
-/

namespace Countersign

/-- The nanoseconds of the longest duration. -/
def maxDurationNanos : Nat := 0x10000000000000000 * 1000000000 - 1

/-- A length of time. -/
structure Duration where
  /-- The nanoseconds. -/
  nanos : Nat
  /-- There is a longest duration. -/
  nanos_le : nanos ≤ maxDurationNanos
  deriving DecidableEq, Repr

namespace Duration

/-- The duration nearest to a number of nanoseconds. -/
def ofNanos (nanos : Nat) : Duration :=
  ⟨min nanos maxDurationNanos, Nat.min_le_right nanos maxDurationNanos⟩

/-- The duration nearest to a number of milliseconds. -/
def ofMillis (millis : Nat) : Duration :=
  ofNanos (millis * 1000000)

/-- The whole milliseconds of a duration. -/
def millis (duration : Duration) : Nat :=
  duration.nanos / 1000000

/-- The longest duration. -/
def longest : Duration :=
  ⟨maxDurationNanos, Nat.le_refl maxDurationNanos⟩

/-- The sum of two durations, or the longest duration. -/
def add (first second : Duration) : Duration :=
  ofNanos (first.nanos + second.nanos)

/-- A multiple of a duration, or the longest duration. -/
def scale (duration : Duration) (factor : Nat) : Duration :=
  ofNanos (duration.nanos * factor)

/-- The sum of two durations, if it is a duration. -/
def add? (first second : Duration) : Option Duration :=
  if fits : first.nanos + second.nanos ≤ maxDurationNanos then some ⟨_, fits⟩ else none

/-- A multiple of a duration, if it is a duration. -/
def scale? (duration : Duration) (factor : Nat) : Option Duration :=
  if fits : duration.nanos * factor ≤ maxDurationNanos then some ⟨_, fits⟩ else none

/-- The shorter of two durations. -/
def shorter (first second : Duration) : Duration :=
  if first.nanos ≤ second.nanos then first else second

/-- The last `width` decimal digits of a number, with leading zeros. -/
def paddedDigits : (width value : Nat) → List Char
  | 0, _ => []
  | width + 1, value => paddedDigits width (value / 10) ++ [Nat.digitChar (value % 10)]

/-- Digits without the zeros at their end. -/
def trimZeros (digits : List Char) : List Char :=
  (digits.reverse.dropWhile (· = '0')).reverse

/-- An amount of a unit that has `places` decimal places below it, given in the smallest unit. -/
def inUnit (places amount : Nat) : String :=
  let whole := toString (amount / Nat.pow 10 places)
  match trimZeros (paddedDigits places (amount % Nat.pow 10 places)) with
  | [] => whole
  | digits => whole ++ "." ++ String.ofList digits

/-- A duration in the largest of seconds, milliseconds, microseconds and nanoseconds of which it
has at least one. -/
def description (duration : Duration) : String :=
  if 1000000000 ≤ duration.nanos then inUnit 9 duration.nanos ++ "s"
  else if 1000000 ≤ duration.nanos then inUnit 6 duration.nanos ++ "ms"
  else if 1000 ≤ duration.nanos then inUnit 3 duration.nanos ++ "µs"
  else inUnit 0 duration.nanos ++ "ns"

end Duration
end Countersign
