import Countersign.Submission.Client

/-!
# Calls that may be given up

While a call sends its request and pauses, the caller may give up at any moment.  The call notices
that only where it waits, and when something else has happened as well, it may take that instead.
-/

namespace Countersign
namespace Retry

/-- Where a call stands. -/
inductive Phase where
  /-- The request is to be sent. -/
  | ready
  /-- The request is under way. -/
  | requesting
  /-- The request has failed for the moment. -/
  | failed
  /-- A pause has been begun and is not over. -/
  | resting
  /-- A pause is under way, or it is over. -/
  | asleep
  /-- A response has come and is to be read. -/
  | answered (response : HttpResponse)
  /-- The call has returned. -/
  | returned (result : Except SubmissionError CreatedEntries)

/-- Whether a call waits, so that it can notice that the caller has given up. -/
def Phase.waits : Phase → Bool
  | ready | requesting | resting | asleep => true
  | failed | answered _ | returned _ => false

/-- A call at a moment. -/
structure Call where
  /-- How many times the request has been sent. -/
  sent : Nat
  /-- Whether the caller has given up. -/
  isCancelled : Bool
  /-- Where the call stands. -/
  phase : Phase

/-- A call that is about to begin. -/
def Call.start : Call :=
  ⟨0, false, .ready⟩

/-- What happens to a call. -/
inductive Event where
  /-- The caller gives up. -/
  | cancel
  /-- The call does something. -/
  | act (activity : Activity)
  /-- An attempt ends. -/
  | attempt (outcome : Outcome)
  /-- Nothing has happened when the call looks for the first time, so it sleeps. -/
  | sleep
  /-- A pause is over. -/
  | wake
  /-- The response is read. -/
  | read
  /-- The call notices that the caller has given up. -/
  | leave
  deriving DecidableEq

namespace Event

/-- What the call does. -/
def activity? : Event → Option Activity
  | act activity => some activity
  | _ => none

/-- Whether a request is sent. -/
def sends : Event → Bool
  | act (.post _) => true
  | _ => false

/-- How an attempt ends. -/
def outcome? : Event → Option Outcome
  | attempt outcome => some outcome
  | _ => none

end Event

/-- What may happen next to a call whose request is repeated at most `retries` times.  Of several
things that are ready any may be taken; a pause is not ready when it begins. -/
inductive Step (posting : Posting) (retries : Nat) : Call → Event → Call → Prop
  /-- The caller gives up. -/
  | cancel (sent : Nat) (phase : Phase) :
    Step posting retries ⟨sent, false, phase⟩ .cancel ⟨sent, true, phase⟩
  /-- The request is sent. -/
  | post (sent : Nat) (given : Bool) :
    Step posting retries ⟨sent, given, .ready⟩ (.act (.post posting))
      ⟨sent + 1, given, .requesting⟩
  /-- The request succeeds. -/
  | succeed (sent : Nat) (given : Bool) (outcome : Outcome) (response : HttpResponse)
    (judged : judge outcome = .success response) :
    Step posting retries ⟨sent, given, .requesting⟩ (.attempt outcome)
      ⟨sent, given, .answered response⟩
  /-- The request fails, or it fails for the moment and is not repeated any more. -/
  | fail (sent : Nat) (given : Bool) (outcome : Outcome) (error : SubmissionError)
    (judged : judge outcome = .final error ∨ judge outcome = .transient error ∧ retries < sent) :
    Step posting retries ⟨sent, given, .requesting⟩ (.attempt outcome)
      ⟨sent, given, .returned (.error error)⟩
  /-- The request fails for the moment and is to be repeated. -/
  | miss (sent : Nat) (given : Bool) (outcome : Outcome) (error : SubmissionError)
    (judged : judge outcome = .transient error) (left : sent ≤ retries) :
    Step posting retries ⟨sent, given, .requesting⟩ (.attempt outcome) ⟨sent, given, .failed⟩
  /-- A pause begins. -/
  | pause (sent : Nat) (given : Bool) :
    Step posting retries ⟨sent, given, .failed⟩ (.act (.pause (pause sent)))
      ⟨sent, given, .resting⟩
  /-- The call sleeps until something happens. -/
  | sleep (sent : Nat) :
    Step posting retries ⟨sent, false, .resting⟩ .sleep ⟨sent, false, .asleep⟩
  /-- The pause is over. -/
  | wake (sent : Nat) (given : Bool) :
    Step posting retries ⟨sent, given, .asleep⟩ .wake ⟨sent, given, .ready⟩
  /-- The response is read. -/
  | read (sent : Nat) (given : Bool) (response : HttpResponse) :
    Step posting retries ⟨sent, given, .answered response⟩ .read
      ⟨sent, given, .returned (LogClient.created response)⟩
  /-- A call that waits returns because the caller has given up. -/
  | leave (sent : Nat) (phase : Phase) (waits : phase.waits = true) :
    Step posting retries ⟨sent, true, phase⟩ .leave ⟨sent, true, .returned (.error cancelled)⟩

/-- The events through which a call gets from one moment to another. -/
inductive Path (posting : Posting) (retries : Nat) : Call → List Event → Call → Prop
  | nil (call : Call) : Path posting retries call [] call
  | cons {call next last : Call} {event : Event} {events : List Event} :
    Step posting retries call event next → Path posting retries next events last →
      Path posting retries call (event :: events) last

end Retry
end Countersign
