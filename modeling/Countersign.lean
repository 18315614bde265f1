import Countersign.Signature.KeyPair
import Countersign.Submission.Submit
import Countersign.Trust.Resolver
import Countersign.Trust.Root
import Countersign.Trust.Source
import Countersign.Proofs.Outcome
import Countersign.Proofs.Trust.EntryTable
import Countersign.Proofs.Trust.Acceptance
import Countersign.Proofs.Bytes
import Countersign.Proofs.Der.Element
import Countersign.Proofs.Der.Primitive
import Countersign.Proofs.Json.Decode
import Countersign.Proofs.Json.Encode
import Countersign.Proofs.Json.Patch
import Countersign.Proofs.Json.Persistence
import Countersign.Proofs.Json.Rewrite
import Countersign.Proofs.Key.Extraction
import Countersign.Proofs.Text.Base64
import Countersign.Proofs.Time.Calendar
import Countersign.Proofs.Time.Timestamp
import Countersign.Proofs.Trust.Fidelity
import Countersign.Proofs.Trust.Resolution
import Countersign.Proofs.Bundle.RoundTrip
import Countersign.Proofs.Submission.Session
import Countersign.Proofs.Submission.Normalization
import Countersign.Proofs.Submission.Verbatim
import Countersign.Proofs.Submission.Form
import Countersign.Proofs.Submission.Proposal
import Countersign.Proofs.Trust.Index
import Countersign.Trust.Inquiry
import Countersign.Proofs.Trust.Inquiry
import Countersign.Proofs.Trust.KeyDemand
import Countersign.Proofs.Trust.Isolation
import Countersign.Proofs.Json.Reordering
import Countersign.Proofs.Json.Mending
import Countersign.Proofs.Json.Gap
import Countersign.Proofs.Trust.Order
import Countersign.Proofs.Json.Correspondence
import Countersign.Proofs.Trust.Loading
import Countersign.Proofs.Bundle.Order
import Countersign.Proofs.Trust.Collection
import Countersign.Proofs.Trust.Recovery
import Countersign.Proofs.Trust.Reload
import Countersign.Proofs.Time.CanonicalForm
import Countersign.Proofs.Trust.Bounds
import Countersign.Proofs.Submission.Cancellation
import Countersign.Proofs.Submission.Deadline
import Countersign.Proofs.Submission.Conversion
import Countersign.Proofs.Key.Encoding
import Countersign.Proofs.Trust.Layout
import Countersign.Proofs.Json.Int64Text
import Countersign.Proofs.Text.Sextet
import Countersign.Proofs.Format.Spelling
import Countersign.Proofs.Json.Overlay
import Countersign.Proofs.Der.Integer
import Countersign.Proofs.Key.ModulusSize
