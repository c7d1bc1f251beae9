import BulkIngest.Time.Duration

/-!
Failures of a bulk request as a whole, and what stops a run or keeps it from starting.
-/

namespace BulkIngest

/-- A bulk request that failed as a whole. -/
inductive TransportError
  | connection (text : String)
  | timeout (after : Duration)
  | status (code : Nat) (body : String)
  | malformedResponse (text : String)
  | itemCountMismatch (expected returned : Nat)
deriving DecidableEq

namespace TransportError

def message : TransportError → String
  | .connection text => s!"📡 bulk request never landed: {text}"
  | .timeout after => s!"⏱️ bulk request ran past its {after.unitText} deadline"
  | .status code body => s!"💀 backend rejected the whole bulk request with HTTP {code}: {body}"
  | .malformedResponse text => s!"🧩 backend answered with an unreadable bulk response: {text}"
  | .itemCountMismatch expected returned =>
    s!"🧮 backend returned {returned} item results for a batch of {expected} documents"

/-- Whether the same request could be answered differently another time: a status in the four
hundreds stays, except the two that ask for patience. -/
def isRetryable : TransportError → Bool
  | .status code _ => !(400 ≤ code && code < 500) || code = 408 || code = 429
  | _ => true

end TransportError

inductive PipelineError
  | retriesExhausted (attempts : Nat) (last : TransportError)
  | source (text : String)
  | submissionPanicked (text : String)
  | alreadyStarted
  | invalidConfig (complaint : String)
deriving DecidableEq

def PipelineError.message : PipelineError → String
  | .retriesExhausted attempts last =>
    s!"💀 batch gave up after {attempts} attempts, last error: {last.message}"
  | .source text => s!"💀 source failed mid-stream: {text}"
  | .submissionPanicked text => s!"💀 a submission task died before reporting back: {text}"
  | .alreadyStarted => "🔒 pipeline already started; sources don't rewind, build a new pipeline"
  | .invalidConfig complaint => s!"🔧 invalid pipeline config: {complaint}"

end BulkIngest
