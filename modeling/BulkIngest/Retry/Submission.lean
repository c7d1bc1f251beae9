import BulkIngest.Failure
import BulkIngest.Outcome
import BulkIngest.Retry.Policy

/-!
The life of one batch: attempts on the wire with rests between them, until the backend answers, the
retries are used up, or the run is being stopped. Only failures of a request as a whole are retried.
An attempt on the wire is never broken off; what stops is the rest before the next one.
-/

namespace BulkIngest

/-- What the sink makes of a request. -/
inductive Answer
  | statuses (statuses : List ItemStatus)
  | failed (e : TransportError)
  /-- The sink broke down, with a message unless it left something else. -/
  | panicked (message : Option String)

/-- What one attempt comes to: an outcome for each item, the failure of the request as a whole, or
the breakdown of the sink. -/
inductive Reading
  | delivered (outcomes : List Outcome)
  | lost (e : TransportError)
  | broken (message : Option String)

namespace Batch

/-- The outcomes that statuses stand for, provided there is one status for each item. -/
def reconcile (batch : Batch) (statuses : List ItemStatus) :
    Except TransportError (List Outcome) :=
  if statuses.length = batch.size then .ok (List.zipWith Outcome.ofStatus batch.refs statuses)
  else .error (.itemCountMismatch batch.size statuses.length)

/-- The failure of the request, once for each item. -/
def transportFailures (batch : Batch) (e : TransportError) : List Outcome :=
  batch.refs.map (Outcome.failed .transport e.message)

/-- What an attempt comes to by its answer. One that does not have a status for each item is a
failure of the request. -/
def reading (batch : Batch) : Answer → Reading
  | .panicked message => .broken message
  | .failed e => .lost e
  | .statuses statuses =>
    match batch.reconcile statuses with
    | .ok outcomes => .delivered outcomes
    | .error e => .lost e

/-- One attempt and no other: an outcome for each item, unless the sink breaks down. -/
def submit (batch : Batch) (a : Answer) : Except (Option String) (List Outcome) :=
  match batch.reading a with
  | .delivered outcomes => .ok outcomes
  | .lost e => .ok (batch.transportFailures e)
  | .broken message => .error message

end Batch

/-- How the submission of a batch ended. -/
inductive Verdict
  | delivered
  | exhausted (e : PipelineError)
  /-- Stopped between attempts. -/
  | abandoned
deriving DecidableEq

structure SubmissionReport where
  outcomes : List Outcome
  /-- How many attempts there were. As in `Submission`, a number without a bound. -/
  attempts : Nat
  /-- The rests that were begun, in order. -/
  delays : List Duration
  verdict : Verdict
deriving DecidableEq

inductive Stage
  | queued
  | sending
  | resting (last : TransportError)
  /-- The rest is over and the next attempt is due. -/
  | rested (last : TransportError)
  | reported (report : SubmissionReport)
  | panicked (message : Option String)

structure Submission where
  batch : Batch
  /-- The attempts begun so far. A counter of 32 bits agrees with this number as long as
  `maxRetries + 1 < 2 ^ 32`, and may overflow otherwise; `Proofs.Retry.Counter` has both. -/
  attempts : Nat
  delays : List Duration
  stage : Stage

namespace Submission

def of (batch : Batch) : Submission := ⟨batch, 0, [], .queued⟩

def sequence (s : Submission) : Nat := s.batch.sequence

/-- Whether nothing more will happen to the batch. -/
def isOver (s : Submission) : Bool :=
  match s.stage with
  | .reported _ | .panicked _ => true
  | _ => false

def report (s : Submission) (outcomes : List Outcome) (verdict : Verdict) : Submission :=
  { s with stage := .reported ⟨outcomes, s.attempts, s.delays, verdict⟩ }

def abandonAfter (s : Submission) (last : TransportError) : Submission :=
  s.report (s.batch.transportFailures last) .abandoned

/-- After a failed attempt: the end, or a rest. `stopped` says that no rest may begin. -/
def afterFailure (policy : RetryPolicy) (stopped : Bool) (s : Submission) (e : TransportError) :
    Submission :=
  let retries := s.attempts - 1
  if policy.maxRetries.toNat ≤ retries || !e.isRetryable then
    s.report (s.batch.transportFailures e) (.exhausted (.retriesExhausted s.attempts e))
  else if stopped then s.abandonAfter e
  else { s with delays := s.delays ++ [policy.delayFor retries], stage := .resting e }

/-- The attempt on the wire is over. -/
def conclude (policy : RetryPolicy) (stopped : Bool) (s : Submission) (a : Answer) : Submission :=
  match s.batch.reading a with
  | .delivered outcomes => s.report outcomes .delivered
  | .lost e => s.afterFailure policy stopped e
  | .broken message => { s with stage := .panicked message }

/-- Begins an attempt, if one is due. -/
def send? (s : Submission) : Option Submission :=
  match s.stage with
  | .queued | .rested _ => some { s with attempts := s.attempts + 1, stage := .sending }
  | _ => none

def answer? (policy : RetryPolicy) (stopped : Bool) (answer : Answer) (s : Submission) :
    Option Submission :=
  match s.stage with
  | .sending => some (s.conclude policy stopped answer)
  | _ => none

/-- The time of the rest is over. -/
def wake? (s : Submission) : Option Submission :=
  match s.stage with
  | .resting last => some { s with stage := .rested last }
  | _ => none

/-- Gives up between two attempts. -/
def abandon? (s : Submission) : Option Submission :=
  match s.stage with
  | .resting last | .rested last => some (s.abandonAfter last)
  | _ => none

end Submission

end BulkIngest
