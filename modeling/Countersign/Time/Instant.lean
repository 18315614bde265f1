import Countersign.Time.Calendar

/-!
# Instants

An instant counts the seconds of the calendar and the nanoseconds within the second.  A leap
second has no number of its own: it belongs to the second before it, whose nanoseconds then run on
to two thousand million.  Clocks have one only at the end of a minute, but the nanoseconds of any
second can be set so.
-/

namespace Countersign

/-- How many nanoseconds a second has. -/
def nanosPerSecond : Nat := 1000000000

/-- A point in time. -/
structure Instant where
  /-- The seconds since the first of January 1970, leap seconds not counted. -/
  seconds : Int
  /-- The nanoseconds within the second. -/
  nanos : Nat
  /-- A second is at most doubled by a leap second. -/
  nanos_lt : nanos < 2 * nanosPerSecond
  deriving DecidableEq, Repr

namespace Instant

/-- An instant lies before another one in an earlier second, or earlier in the same second. -/
def isBefore (first second : Instant) : Bool :=
  first.seconds < second.seconds || (first.seconds = second.seconds && first.nanos < second.nanos)

instance : LT Instant where
  lt first second := first.isBefore second = true

instance : LE Instant where
  le first second := ¬ second < first

instance (first second : Instant) : Decidable (first < second) :=
  inferInstanceAs (Decidable (first.isBefore second = true))

instance (first second : Instant) : Decidable (first ≤ second) :=
  inferInstanceAs (Decidable (¬ second < first))

/-- The instant a number of whole minutes later. -/
def addMinutes (instant : Instant) (minutes : Int) : Instant where
  seconds := instant.seconds + 60 * minutes
  nanos := instant.nanos
  nanos_lt := instant.nanos_lt

/-- The instant at a time of day of a date; second sixty is the leap second of its minute. -/
def ofParts? (date : Calendar.Date) (hour minute second nanos : Nat) : Option Instant :=
  if valid : date.isValid ∧ hour < 24 ∧ minute < 60 ∧ nanos < nanosPerSecond then
    let start := Calendar.daysFromEpoch date * 86400 + hour * 3600 + minute * 60
    if second < 60 then
      some ⟨start + second, nanos, by omega⟩
    else if second = 60 then
      some ⟨start + 59, nanosPerSecond + nanos, by omega⟩
    else none
  else none

end Instant
end Countersign
