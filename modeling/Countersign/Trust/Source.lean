import Countersign.Trust.Anchors

/-!
# Sources of trust

A source answers for authorities, logs and verifiers.  Sources can be collected: their lists are
joined, of two logs with one identifier the earlier source's counts, and a verifier comes from the
first source that has one.
-/

namespace Countersign

/-- Logs by identifier; the first entry for an identifier counts. -/
abbrev LogMap := List (String × TransparencyLog)

namespace LogMap

/-- The log with an identifier. -/
def get? (map : LogMap) (id : String) : Option TransparencyLog :=
  map.lookup id

/-- Adds the logs whose identifiers are not there yet. -/
def merge (map later : LogMap) : LogMap :=
  map ++ later.filter fun entry => (map.get? entry.1).isNone

/-- Logs by their own identifiers. -/
def ofLogs (logs : List TransparencyLog) : LogMap :=
  logs.map fun log => (log.id, log)

end LogMap

/-- A source of trust, whose verifiers may be of any kind. -/
structure TrustSource (Key : Type) where
  /-- The authorities that sign timestamps. -/
  timestampingAuthorities : List TimestampingAuthority := []
  /-- The authorities that issue certificates. -/
  certificateAuthorities : List CertificateAuthority := []
  /-- The logs of signatures. -/
  logs : LogMap := []
  /-- The logs of certificates. -/
  ctLogs : LogMap := []
  /-- The verifier with an identifier. -/
  verifier : String → Except TrustError Key := fun id => .error (.keyNotFound id)

namespace TrustSource

variable {Key : Type}

/-- Trust anchors as a source. -/
def ofAnchors (anchors : TrustAnchors) : TrustSource Verifier where
  timestampingAuthorities := anchors.timestampingAuthorities
  certificateAuthorities := anchors.certificateAuthorities
  logs := LogMap.ofLogs anchors.logs
  ctLogs := LogMap.ofLogs anchors.ctLogs
  verifier := anchors.verifier

/-- A source that only has verifiers. -/
def ofLookup (verifier : String → Except TrustError Key) : TrustSource Key where
  verifier := verifier

/-- A source that has the listed verifiers; the first one for an identifier counts. -/
def ofKeys (keys : List (String × Key)) : TrustSource Key :=
  ofLookup fun id =>
    match keys.lookup id with
    | some key => .ok key
    | none => .error (.keyNotFound id)

/-- The verifier of the first source that has one; otherwise the last fault. -/
def firstVerifier (id : String) : TrustError → List (TrustSource Key) → Except TrustError Key
  | last, [] => .error last
  | _, source :: rest =>
    match source.verifier id with
    | .ok key => .ok key
    | .error error => firstVerifier id error rest

/-- The logs of several sources. -/
def mergeLogs (logs : TrustSource Key → LogMap) (sources : List (TrustSource Key)) : LogMap :=
  sources.foldl (fun map source => map.merge (logs source)) []

/-- Several sources as one. -/
def collect (sources : List (TrustSource Key)) : TrustSource Key where
  timestampingAuthorities := sources.flatMap (·.timestampingAuthorities)
  certificateAuthorities := sources.flatMap (·.certificateAuthorities)
  logs := mergeLogs (·.logs) sources
  ctLogs := mergeLogs (·.ctLogs) sources
  verifier id := firstVerifier id (.keyNotFound id) sources

end TrustSource
end Countersign
