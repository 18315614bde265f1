import Countersign.Trust.Error
import Countersign.Trust.Record

/-!
# Periods of validity

A period is closed, and either end may be open.  A period that is made from two ends does not end
before it starts; one whose ends are set by hand may, and then holds no instant.
-/

namespace Countersign

/-- The instant that a timestamp denotes. -/
def Instant.ofTimestamp (text : String) : Except TrustError Instant :=
  match Timestamp.read? text with
  | some instant => .ok instant
  | none => .error (.timestamp text)

/-- A period during which a key or certificate is trusted. -/
structure ValidityPeriod where
  /-- The first instant. -/
  start? : Option Instant := none
  /-- The last instant. -/
  finish? : Option Instant := none
  deriving DecidableEq

namespace ValidityPeriod

/-- The period between two ends. -/
def between (start? finish? : Option Instant) : Except TrustError ValidityPeriod :=
  match start?, finish? with
  | some first, some last =>
    if last < first then .error (.malformed (.reversedPeriod first last))
    else .ok ⟨some first, some last⟩
  | _, _ => .ok ⟨start?, finish?⟩

/-- The period from an instant on. -/
def startingAt (start : Instant) : ValidityPeriod :=
  ⟨some start, none⟩

/-- Whether an instant lies in a period. -/
def contains (period : ValidityPeriod) (time : Instant) : Bool :=
  period.start?.all (fun first => first ≤ time) && period.finish?.all (fun last => time ≤ last)

/-- Whether a period has an end. -/
def isBounded (period : ValidityPeriod) : Bool :=
  period.finish?.isSome

/-- The instant that an optional timestamp denotes. -/
def instantOf? : Option String → Except TrustError (Option Instant)
  | some text => (Instant.ofTimestamp text).map some
  | none => .ok none

/-- The period between two ends that are given as timestamps. -/
def ofTimestamps (start? finish? : Option String) : Except TrustError ValidityPeriod := do
  let first? ← instantOf? start?
  let last? ← instantOf? finish?
  between first? last?

/-- The period that a document gives; without one, both ends are open. -/
def ofRecord : Option PeriodRecord → Except TrustError ValidityPeriod
  | none => .ok {}
  | some record => ofTimestamps record.start? record.finish?

/-- How a period is written; one with two open ends is left out. -/
def toRecord (period : ValidityPeriod) : Option PeriodRecord :=
  if period.start?.isNone && period.finish?.isNone then none
  else some ⟨period.start?.map Timestamp.write, period.finish?.map Timestamp.write⟩

end ValidityPeriod
end Countersign
