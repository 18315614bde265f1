import Countersign.Submission.Artifact
import Countersign.Submission.Options

/-!
# Submissions

A submission proposes the entry of a bundle to a log and appends what the log has recorded to the
bundle.  Whatever fails leaves the bundle as it was.
-/

namespace Countersign

/-- How a call of a client ends: with its answer, with the deadline if there is one, or because the
caller gives up. -/
inductive CallEnd (deadline? : Option Duration) where
  | answered (answer : Except SubmissionError CreatedEntries)
  | expired (deadline : Duration) (is_deadline : deadline? = some deadline)
  | cancelled

/-- What comes of each request to a client. -/
abbrev Client (deadline? : Option Duration) := EntryRequest → CallEnd deadline?

/-- What a submission has done. -/
structure Submission where
  /-- The bundle after it. -/
  bundle : Bundle
  /-- What the client was asked. -/
  requests : List EntryRequest
  /-- Whether it succeeded. -/
  result : Except SubmissionError Unit

namespace Submission

/-- A submission that has failed. -/
def failed (bundle : Bundle) (requests : List EntryRequest) (error : SubmissionError) :
    Submission :=
  ⟨bundle, requests, .error error⟩

/-- The answer with which a call ends. -/
def answer {deadline? : Option Duration} :
    CallEnd deadline? → Except SubmissionError CreatedEntries
  | .answered answer => answer
  | .expired deadline _ => .error (.cancelled (.deadline deadline))
  | .cancelled => .error (.cancelled .byCaller)

/-- The entry to append after a call. -/
def recorded {deadline? : Option Duration} (callEnd : CallEnd deadline?) :
    Except SubmissionError LoggedEntry := do
  let answer ← answer callEnd
  let entry ← answer.created
  entry.toLoggedEntry

/-- Submits a bundle.  The entry is proposed before the client is set up. -/
def submit (options : SubmissionOptions) (factory : EntryFactory)
    (client : Except SubmissionError (Client options.deadline?)) (publicKey : Bytes)
    (bundle : Bundle) : Submission :=
  match bundle.proposedEntry publicKey factory with
  | .error error => failed bundle [] error
  | .ok entry =>
    match client with
    | .error error => failed bundle [] error
    | .ok client =>
      let request : EntryRequest := ⟨entry, options.effectiveTimeout?⟩
      match recorded (client request) with
      | .error error => failed bundle [request] error
      | .ok logged => ⟨bundle.addEntry logged, [request], .ok ()⟩

/-- The client that is built when none is supplied; the outcome of every attempt is given. -/
def builtClient (options : SubmissionOptions) (userAgent : String) (attempts : Nat → Retry.Attempt)
    (cancelAt? : Option Nat := none) : Except SubmissionError (Client options.deadline?) :=
  (LogClient.ofText options.baseUrl options.retries).map fun client request =>
    .answered (client.createEntry userAgent request attempts cancelAt?)

end Submission
end Countersign
