import Countersign.Trust.Authority
import Countersign.Trust.Log

/-!
# Settings of logs and authorities

The key of a log and the chain of an authority are fixed when they are made.  What else belongs to
them can be set afterwards, any number of times.
-/

namespace Countersign

/-- What can be set of a log. -/
inductive LogSetting where
  | keyDetails (details : KeyDetails)
  | validity (validity : ValidityPeriod)
  | baseUrl (url? : Option String)
  | hashAlgorithm (algorithm : HashAlgorithm)
  deriving DecidableEq

namespace TransparencyLog

/-- The log with one thing set. -/
def set (log : TransparencyLog) : LogSetting → TransparencyLog
  | .keyDetails details => { log with keyDetails := details }
  | .validity validity => { log with validity }
  | .baseUrl url? => { log with baseUrl? := url? }
  | .hashAlgorithm algorithm => { log with hashName? := some algorithm.name }

end TransparencyLog

/-- What can be set of an authority. -/
inductive AuthoritySetting where
  | validity (validity : ValidityPeriod)
  | uri (uri? : Option String)
  | subject (subject? : Option AuthoritySubject)
  deriving DecidableEq

namespace Authority

/-- The authority with one thing set. -/
def set (authority : Authority) : AuthoritySetting → Authority
  | .validity validity => { authority with validity }
  | .uri uri? => { authority with uri? }
  | .subject subject? => { authority with subject? }

end Authority
end Countersign
