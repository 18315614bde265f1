import Countersign.Submission.Submit

/-!
# The course of a submission

While a client is at work, the caller may give up, the deadline may pass and the answer may come, in
any order; a submission may notice any of them that has happened.  An answer that it takes is
worked on in several steps, of which the last one appends to the bundle.
-/

namespace Countersign

/-- Someone who submits bundles to one log. -/
structure Submitter where
  /-- How submissions are made. -/
  options : SubmissionOptions
  /-- Whether a client is supplied; if not, one is built for the log. -/
  suppliesClient : Bool
  /-- The maker of entries. -/
  factory : EntryFactory
  /-- The certificate or key that verifies the signature. -/
  publicKey : Bytes

namespace Submitter

/-- Whether there is a client; one that is supplied needs no address. -/
def setUp (submitter : Submitter) : Except SubmissionError Unit :=
  if submitter.suppliesClient then .ok ()
  else (LogClient.ofText submitter.options.baseUrl submitter.options.retries).map fun _ => ()

/-- What the client is asked for a bundle. -/
def request (submitter : Submitter) (bundle : Bundle) : Except SubmissionError EntryRequest := do
  let entry ← bundle.proposedEntry submitter.publicKey submitter.factory
  submitter.setUp
  return ⟨entry, submitter.options.effectiveTimeout?⟩

end Submitter

/-- An answer's entries have distinct identifiers. -/
def CreatedEntries.IsMap (answer : CreatedEntries) : Prop :=
  (answer.entries.map Prod.fst).Nodup

/-- How far a submission has come. -/
inductive Stage where
  /-- Nothing has been done. -/
  | begun
  /-- The request has been made. -/
  | prepared (request : EntryRequest)
  /-- The client is at work. -/
  | asked
  /-- An answer has been taken. -/
  | answered (answer : CreatedEntries)
  /-- The new entry has been picked out of the answer. -/
  | selected (entry : LogEntry)
  /-- The new entry has been decoded. -/
  | decoded (entry : LoggedEntry)
  /-- Nothing more is done. -/
  | finished (result : Except SubmissionError Unit)

/-- What has come of a submission so far. -/
structure Course where
  /-- The bundle. -/
  bundle : Bundle
  /-- What the client has been asked. -/
  requests : List EntryRequest := []
  /-- How far the submission has come. -/
  stage : Stage := .begun
  /-- Whether the caller has given up. -/
  isCancelled : Bool := false
  /-- Whether the deadline has passed. -/
  isExpired : Bool := false
  /-- What the client has answered. -/
  answer? : Option (Except SubmissionError CreatedEntries) := none
  /-- The answer that has been taken. -/
  taken? : Option CreatedEntries := none

/-- What a waiting submission looks at. -/
inductive Notice where
  | cancellation
  | deadline
  | answer
  deriving DecidableEq, Repr

/-- What happens next. -/
inductive Event where
  /-- The caller gives up. -/
  | cancel
  /-- The deadline passes. -/
  | expire
  /-- The client answers. -/
  | reply (answer : Except SubmissionError CreatedEntries)
    (are_maps : ∀ entries, answer = .ok entries → entries.IsMap)
  /-- The submission goes on; while it waits, it looks at one thing. -/
  | proceed (notice : Notice)

namespace Course

/-- A course that ends with an error. -/
def fail (course : Course) (error : SubmissionError) : Course :=
  { course with stage := .finished (.error error) }

/-- Goes on with the outcome of a step, if it did not fail. -/
def attempt {α : Type} (course : Course) (outcome : Except SubmissionError α) (next : α → Stage) :
    Course :=
  match outcome with
  | .ok value => { course with stage := next value }
  | .error error => course.fail error

/-- Asks the client. -/
def ask (course : Course) (request : EntryRequest) : Course :=
  { course with requests := course.requests ++ [request], stage := .asked }

/-- Looks at one of the things that a submission waits for while its client is at work. -/
def await (deadline? : Option Duration) (course : Course) : Notice → Course
  | .cancellation => if course.isCancelled then course.fail (.cancelled .byCaller) else course
  | .deadline =>
    match deadline? with
    | some deadline =>
      if course.isExpired then course.fail (.cancelled (.deadline deadline)) else course
    | none => course
  | .answer =>
    match course.answer? with
    | some (.ok answer) => { course with stage := .answered answer, taken? := some answer }
    | some (.error error) => course.fail error
    | none => course

/-- The next step of a submission. -/
def proceed (submitter : Submitter) (course : Course) (notice : Notice) : Course :=
  match course.stage with
  | .begun => course.attempt (submitter.request course.bundle) .prepared
  | .prepared request =>
    if notice = .cancellation ∧ course.isCancelled then course.fail (.cancelled .byCaller)
    else course.ask request
  | .asked => course.await submitter.options.deadline? notice
  | .answered answer => course.attempt answer.created .selected
  | .selected entry => course.attempt entry.toLoggedEntry .decoded
  | .decoded entry =>
    { course with bundle := course.bundle.addEntry entry, stage := .finished (.ok ()) }
  | .finished _ => course

/-- What comes of an event; a client answers once, and only when it has been asked. -/
def step (submitter : Submitter) (course : Course) : Event → Course
  | .cancel => { course with isCancelled := true }
  | .expire => { course with isExpired := true }
  | .reply answer _ =>
    match course.stage, course.answer? with
    | .asked, none => { course with answer? := some answer }
    | _, _ => course
  | .proceed notice => course.proceed submitter notice

/-- The course of a submission through events. -/
def run (submitter : Submitter) (bundle : Bundle) (events : List Event) : Course :=
  events.foldl (step submitter) { bundle }

end Course

end Countersign
