import Countersign.Submission.Client
import Countersign.Text.Quoted

/-!
# Options of submissions

Which log is used, how long one attempt may take, and how often a request is repeated.  A
submission as a whole is given the time that all attempts and pauses may take.
-/

namespace Countersign

/-- The usual time for one attempt. -/
def usualTimeout : Duration :=
  Duration.ofMillis 30000

/-- How a submission is made. -/
structure SubmissionOptions where
  /-- The address of the log. -/
  baseUrl : String
  /-- How long one attempt may take; zero means the usual time. -/
  timeout? : Option Duration := some usualTimeout
  /-- How many times the client repeats a request. -/
  retries : UInt32 := 1
  deriving DecidableEq, Repr

namespace SubmissionOptions

/-- The options for the public log. -/
def publicLog : SubmissionOptions :=
  { baseUrl := LogClient.publicLog }

/-- The options for the log for trials. -/
def stagingLog : SubmissionOptions :=
  { baseUrl := LogClient.stagingLog }

/-- How long one attempt may really take. -/
def effectiveTimeout? (options : SubmissionOptions) : Option Duration :=
  options.timeout?.map fun timeout => if timeout.nanos = 0 then usualTimeout else timeout

/-- The number of attempts that are accounted for. -/
def attempts (options : SubmissionOptions) : Nat :=
  min (options.retries.toNat + 1) 0xFFFFFFFF

/-- How long the whole submission may take. -/
def deadline? (options : SubmissionOptions) : Option Duration :=
  options.effectiveTimeout?.map fun timeout =>
    (timeout.scale options.attempts).add (Retry.budget options.retries.toNat)

/-- The description of an optional part in messages. -/
def describeOption (part? : Option String) : String :=
  match part? with
  | some part => s!"Some({part})"
  | none => "None"

/-- The description of options in messages; a client may have been supplied. -/
def description (options : SubmissionOptions) (suppliesClient : Bool) : String :=
  let timeout := describeOption (options.timeout?.map Duration.description)
  let client := describeOption (if suppliesClient then some (Quoted.text "<injected>") else none)
  s!"RekorOptions \x7b base_url: {Quoted.text options.baseUrl}, timeout: {timeout}, " ++
    s!"retries: {options.retries}, client: {client}, .. \x7d"

/-- The description of a submitter with these options. -/
def submitterDescription (options : SubmissionOptions) (suppliesClient : Bool) : String :=
  s!"Rekor \x7b options: {options.description suppliesClient} \x7d"

end SubmissionOptions
end Countersign
