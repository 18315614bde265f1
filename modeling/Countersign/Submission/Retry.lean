import Countersign.Net.Http
import Countersign.Submission.Error

/-!
# Retrying

A request that fails for the moment is sent again after a pause, up to a number of times.  The
pauses double from a tenth of a second up to five seconds.  The caller may give up at any moment,
which ends the request or the pause that is under way.
-/

namespace Countersign
namespace Retry

/-- The first pause, in nanoseconds. -/
def firstPause : Nat := 100000000

/-- The longest pause, in nanoseconds. -/
def longestPause : Nat := 5000000000

/-- The length of the pause with a number, counted from one, in nanoseconds. -/
def pauseNanos (number : Nat) : Nat :=
  min (firstPause * Nat.pow 2 (min (number - 1) 16)) longestPause

/-- The pause with a number, counted from one. -/
def pause (number : Nat) : Duration :=
  Duration.ofNanos (pauseNanos number)

/-- Two to the power of a word, if it is a word. -/
def powerOfTwo? (exponent : UInt32) : Option UInt32 :=
  if exponent < 32 then some (1 <<< exponent) else none

/-- The pause with a number, reckoned in words and durations; there is none if a step of the
reckoning goes beyond what they hold. -/
def reckonedPause? (number : UInt32) : Option Duration := do
  let earlier : UInt32 := if number = 0 then 0 else number - 1
  let factor ← powerOfTwo? (if earlier ≤ 16 then earlier else 16)
  let delay ← (Duration.ofNanos firstPause).scale? factor.toNat
  return delay.shorter (Duration.ofNanos longestPause)

/-- The sum of all pauses between a request and a number of repetitions, reckoned one pause after
another. -/
def reckonedBudget? (retries : UInt32) : Option Duration :=
  (List.range retries.toNat).foldlM
    (fun total earlier => do total.add? (← reckonedPause? (UInt32.ofNat (earlier + 1))))
    (Duration.ofNanos 0)

/-- The number of pauses that are shorter than the longest. -/
def growingPauses : Nat := 6

/-- The length of all pauses between a request and a number of repetitions, in nanoseconds. -/
def budgetNanos (retries : Nat) : Nat :=
  firstPause * (Nat.pow 2 (min retries growingPauses) - 1) +
    longestPause * (retries - growingPauses)

/-- All pauses between a request and a number of repetitions. -/
def budget (retries : Nat) : Duration :=
  Duration.ofNanos (budgetNanos retries)

/-- How sending a request ends. -/
inductive Outcome where
  /-- A response came. -/
  | response (response : HttpResponse)
  /-- No response came. -/
  | failure (fault : TransportFault)
  deriving DecidableEq, Repr

/-- What an outcome means for the request. -/
inductive Verdict where
  /-- The request has succeeded. -/
  | success (response : HttpResponse)
  /-- The request has failed for the moment. -/
  | transient (error : SubmissionError)
  /-- The request has failed. -/
  | final (error : SubmissionError)
  deriving DecidableEq, Repr

/-- The error of a response that is no success. -/
def refusal (response : HttpResponse) : SubmissionError :=
  let status := HttpStatus.text response.status
  .api s!"failed to create entry: {status} - {Utf8.decodeLossy response.body}"

/-- Judges an outcome. -/
def judge : Outcome → Verdict
  | .response response =>
    if HttpStatus.isSuccess response.status then .success response
    else if HttpStatus.isTransient response.status then .transient (refusal response)
    else .final (refusal response)
  | .failure .unreachable => .transient (.transport .unreachable)
  | .failure .timedOut => .transient (.transport .timedOut)
  | .failure fault => .final (.transport fault)

/-- How one attempt goes. -/
structure Attempt where
  /-- How long it takes until the whole response is there, in nanoseconds. -/
  elapsed : Nat
  /-- How it ends. -/
  outcome : Outcome
  deriving DecidableEq, Repr

/-- What one attempt sends. -/
structure Posting where
  /-- The request. -/
  request : HttpRequest
  /-- How long the attempt may take. -/
  timeout? : Option Duration
  deriving DecidableEq, Repr

/-- What a call does. -/
inductive Activity where
  /-- It sends a request. -/
  | post (posting : Posting)
  /-- It begins a pause. -/
  | pause (delay : Duration)
  deriving DecidableEq, Repr

/-- What was done until a call was over. -/
structure Run (α : Type) where
  /-- What the call did, in order. -/
  activities : List Activity
  /-- When it was over, in nanoseconds. -/
  finished : Nat
  /-- What came of it. -/
  result : Except SubmissionError α

namespace Run

variable {α β : Type}

/-- A run that sends a request once. -/
def single (posting : Posting) (finished : Nat) (result : Except SubmissionError α) : Run α :=
  ⟨[.post posting], finished, result⟩

/-- Adds an earlier attempt and the pause after it. -/
def after (posting : Posting) (delay : Duration) (run : Run α) : Run α :=
  { run with activities := .post posting :: .pause delay :: run.activities }

/-- Makes something of the result. -/
def andThen (run : Run α) (next : α → Except SubmissionError β) : Run β :=
  { run with result := run.result.bind next }

end Run

/-- When the caller gives up, if that is before a moment. -/
def cancelledBefore? (cancelAt? : Option Nat) (moment : Nat) : Option Nat :=
  cancelAt?.filter (· < moment)

/-- The error of a request that was given up. -/
def cancelled : SubmissionError :=
  .cancelled .inClient

/-- Sends a request at a moment, after it has been sent `sent` times, and repeats it at most `left`
times. -/
def runFrom (posting : Posting) (attempts : Nat → Attempt) (cancelAt? : Option Nat) :
    (left sent now : Nat) → Run HttpResponse
  | left, sent, now =>
    let attempt := attempts sent
    let answered := now + attempt.elapsed
    match cancelledBefore? cancelAt? answered with
    | some moment => .single posting moment (.error cancelled)
    | none =>
      match judge attempt.outcome, left with
      | .success response, _ => .single posting answered (.ok response)
      | .final error, _ => .single posting answered (.error error)
      | .transient error, 0 => .single posting answered (.error error)
      | .transient _, left + 1 =>
        let delay := pause (sent + 1)
        let woken := answered + delay.nanos
        match cancelledBefore? cancelAt? woken with
        | some moment => ⟨[.post posting, .pause delay], moment, .error cancelled⟩
        | none => (runFrom posting attempts cancelAt? left (sent + 1) woken).after posting delay

/-- Sends a request and repeats it at most `retries` times. -/
def run (posting : Posting) (attempts : Nat → Attempt) (retries : Nat)
    (cancelAt? : Option Nat := none) : Run HttpResponse :=
  runFrom posting attempts cancelAt? retries 0 0

end Retry
end Countersign
