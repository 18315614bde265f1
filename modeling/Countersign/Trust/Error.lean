import Countersign.Json.Decode
import Countersign.Text.Quoted
import Countersign.Time.Timestamp
import Countersign.Trust.KeyDetails

/-!
# Faults of trust roots

What can be wrong with a trust root or with one of its entries, and how each fault is worded.
Faults fall into three groups: the input cannot be decoded, it decodes but describes no valid
trust root, or one entry cannot be used.
-/

namespace Countersign

/-- The categories of entries in a trust root. -/
inductive EntryCategory where
  | certificateAuthority
  | ctLog
  | timestampingAuthority
  | transparencyLog
  deriving DecidableEq, Repr

namespace EntryCategory

/-- The name of a category. -/
def name : EntryCategory → String
  | certificateAuthority => "certificate authority"
  | ctLog => "CT log"
  | timestampingAuthority => "timestamping authority"
  | transparencyLog => "transparency log"

end EntryCategory

/-- Why a decoded document describes no valid trust root. -/
inductive RootFault where
  /-- An authority has no certificate. -/
  | emptyChain
  /-- A certificate is followed by one that did not issue it; both are named by their owners. -/
  | brokenChain (subject next : String)
  /-- A log has no key. -/
  | keylessLog
  /-- A period ends before it starts. -/
  | reversedPeriod (first last : Instant)
  deriving DecidableEq, Repr

namespace RootFault

/-- The wording of a fault. -/
def message : RootFault → String
  | emptyChain => "certificate chain is empty"
  | brokenChain subject next => s!"certificate {subject} is not issued by {next}"
  | keylessLog => "transparency log without public key"
  | reversedPeriod first last =>
    s!"validity period ends ({Timestamp.write last}) before it starts ({Timestamp.write first})"

end RootFault

/-- Why an algorithm cannot be used. -/
inductive AlgorithmFault where
  /-- The declared name is not recognized. -/
  | keyDetails (name : String)
  /-- No scheme checks signatures of this algorithm. -/
  | noScheme (algorithm : AlgorithmDetails)
  /-- The name of a hash function is not known. -/
  | hash (name : String)
  /-- The key of a certificate is not understood. -/
  | certificateKey (error : KeyError)
  /-- A source of keys has a reason of its own. -/
  | ofSource (reason : String)
  deriving DecidableEq, Repr

namespace AlgorithmFault

/-- The wording of a fault. -/
def message : AlgorithmFault → String
  | keyDetails name => s!"unrecognized key details {Quoted.text name}"
  | noScheme algorithm =>
    s!"no verifier for {algorithm.key.description} with {algorithm.hash.name}"
  | hash name => s!"hash algorithm {Quoted.text name}"
  | certificateKey error => error.message
  | ofSource reason => reason

end AlgorithmFault

/-- Why a key does not fit its declared algorithm. -/
inductive KeyFault where
  /-- The modulus has another size than declared. -/
  | modulusSize (declared found : Nat)
  /-- The key is not understood or of another kind. -/
  | key (error : KeyError)
  deriving DecidableEq, Repr

namespace KeyFault

/-- The wording of a fault. -/
def message : KeyFault → String
  | modulusSize declared found =>
    s!"expected a {declared}-bit RSA modulus, key has {found} bits"
  | key error => error.message

end KeyFault

/-- What can be wrong with a trust root or an entry of it. -/
inductive TrustError where
  /-- The document cannot be decoded. -/
  | json (fault : Json.DecodeError)
  /-- The file cannot be read as text. -/
  | unreadable
  /-- A certificate cannot be decoded. -/
  | certificate (error : KeyError)
  /-- A text is no timestamp. -/
  | timestamp (text : String)
  /-- The media type names no known version. -/
  | mediaType (text : String)
  /-- Two entries of a category have one identifier. -/
  | duplicate (category : EntryCategory) (id : String)
  /-- The content is not that of a trust root. -/
  | malformed (fault : RootFault)
  /-- An algorithm cannot be used. -/
  | algorithm (fault : AlgorithmFault)
  /-- A key does not fit its declared algorithm; it may be the key of a log. -/
  | key (log? : Option String) (fault : KeyFault)
  /-- No entry has the identifier. -/
  | keyNotFound (id : String)
  /-- A signature does not verify. -/
  | signature (error : KeyError)
  deriving DecidableEq, Repr

namespace TrustError

/-- The wording of an error; a document or file that cannot be read has none of its own. -/
def message? : TrustError → Option String
  | json .malformed => none
  | json (.refused reason) => some reason
  | unreadable => none
  | certificate error => some s!"failed to parse certificate: {error.message}"
  | timestamp text => some s!"failed to parse time: {text}"
  | mediaType text => some s!"unsupported media type: {text}"
  | duplicate category id => some s!"duplicate {category.name} entry with ID {id}"
  | malformed fault => some s!"malformed trusted root: {fault.message}"
  | algorithm fault => some s!"unsupported algorithm: {fault.message}"
  | key none fault => some s!"invalid key: {fault.message}"
  | key (some log) fault => some s!"invalid key: log {log}: {fault.message}"
  | keyNotFound id => some s!"no matching key found for ID: {id}"
  | signature error => some error.message

/-- Whether the input could not be decoded at all. -/
def isDecodeFailure : TrustError → Bool
  | json _ | unreadable | certificate _ | timestamp _ => true
  | _ => false

/-- Whether the input decodes but describes no valid trust root. -/
def isMalformed : TrustError → Bool
  | mediaType _ | duplicate _ _ | malformed _ => true
  | _ => false

end TrustError
end Countersign
