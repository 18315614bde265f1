import Countersign.Json.Writer
import Countersign.Submission.LogEntry
import Countersign.Submission.ProposedEntry
import Countersign.Submission.Retry

/-!
# Clients of logs

A client sends a proposed entry to a log and reads the answer: the entries by identifier, and in the
headers which of them is new.
-/

namespace Countersign

/-- What a client is asked to do. -/
structure EntryRequest where
  /-- The entry to record. -/
  entry : ProposedEntry
  /-- How long one attempt may take. -/
  timeout? : Option Duration
  deriving DecidableEq, Repr

/-- A client of a log. -/
structure LogClient where
  /-- The address of the log; its path ends in a slash. -/
  address : Address
  /-- How many times a request is repeated. -/
  retries : UInt32
  deriving DecidableEq, Repr

namespace LogClient

/-- The client of the log with an address. -/
def ofText (address : String) (retries : UInt32 := 0) : Except SubmissionError LogClient :=
  match Address.ofText? address with
  | some parsed => .ok ⟨parsed.asFolder, retries⟩
  | none => .error (.config (some address))

/-- The address of the public log. -/
def publicLog : String := "https://rekor.sigstore.dev"

/-- The address of the log for trials. -/
def stagingLog : String := "https://rekor.sigstage.dev"

/-- Where entries are sent. -/
def target (client : LogClient) : Except SubmissionError Address :=
  match client.address.inFolder? ["api", "v1", "log", "entries"] with
  | some target => .ok target
  | none => .error (.config none)

/-- The request that proposes an entry under the name of the program that sends it. -/
def request (client : LogClient) (userAgent : String) (entry : ProposedEntry) :
    Except SubmissionError HttpRequest :=
  client.target.map fun target =>
    ⟨target, userAgent, "application/json", entry.toDocument.compact⟩

/-- What every attempt to record an entry sends. -/
def posting (client : LogClient) (userAgent : String) (request : EntryRequest) :
    Except SubmissionError Retry.Posting :=
  (client.request userAgent request.entry).map fun sent => ⟨sent, request.timeout?⟩

/-- A text without quotes at its ends. -/
def unquote (text : String) : String :=
  let isQuote (character : Char) : Bool := character == '"'
  String.ofList (((text.toList.dropWhile isQuote).reverse.dropWhile isQuote).reverse)

/-- What the response of a log says about the new entry. -/
def created (response : HttpResponse) : Except SubmissionError CreatedEntries :=
  match (Json.Text.readBytes response.body).decode LogEntries.decoder with
  | .ok entries =>
    .ok {
      etag? := (response.header? "etag").map unquote
      location? := (response.header? "location").map unquote
      entries }
  | .error _ => .error (.response .notEntries)

/-- Sends an entry to the log and reads the answer; the outcome of every attempt is given.  Nothing
is sent if there is no address to send it to. -/
def call (client : LogClient) (userAgent : String) (request : EntryRequest)
    (attempts : Nat → Retry.Attempt) (cancelAt? : Option Nat := none) : Retry.Run CreatedEntries :=
  match client.posting userAgent request with
  | .ok posting => (Retry.run posting attempts client.retries.toNat cancelAt?).andThen created
  | .error error => ⟨[], 0, .error error⟩

/-- Records an entry in the log. -/
def createEntry (client : LogClient) (userAgent : String) (request : EntryRequest)
    (attempts : Nat → Retry.Attempt) (cancelAt? : Option Nat := none) :
    Except SubmissionError CreatedEntries :=
  (client.call userAgent request attempts cancelAt?).result

end LogClient
end Countersign
