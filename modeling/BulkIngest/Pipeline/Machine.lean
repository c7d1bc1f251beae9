import BulkIngest.Bulk.Batcher
import BulkIngest.Pipeline.Addressing
import BulkIngest.Pipeline.Summary
import BulkIngest.Progress.Snapshot
import BulkIngest.Retry.Submission
import BulkIngest.Source.Pull

/-!
A run as a machine. `step` says which actions are possible in a state and what they do; when they
happen, and what the source and the sink bring, is up to the world around it. The run pulls
documents while fewer than `maxInFlight` submissions are out, then waits for one of them; when the
source ends or there is a reason to stop, it lets all submissions come in and accounts for what was
never sent.
-/

namespace BulkIngest

/-- Why a run stopped before its source ended. -/
inductive Halt
  | exhausted (e : PipelineError)
  | source (e : PipelineError)
  | panicked (e : PipelineError)
  | cancelled
deriving DecidableEq

namespace Halt

/-- The kind of failure of documents that were never sent. -/
def unsentKind : Halt → FailureKind
  | .exhausted _ | .panicked _ => .retriesExhausted
  | .source _ => .source
  | .cancelled => .cancelled

def verdict : Halt → TerminalState × Option PipelineError
  | .exhausted e | .source e | .panicked e => (.failed, some e)
  | .cancelled => (.cancelled, none)

end Halt

inductive Phase
  | pulling
  | draining
  | finished
deriving DecidableEq

/-- One request to the sink. -/
structure SinkCall where
  sequence : Nat
  attempt : Nat
deriving DecidableEq

/-- What has happened in a run so far, in order. -/
structure Journal where
  dispatched : List Batch
  calls : List SinkCall
  recorded : List Outcome
deriving DecidableEq

structure Machine where
  config : PipelineConfig
  phase : Phase
  /-- Whether the run was asked to stop. -/
  cancelled : Bool
  /-- Whether a batch could not be delivered, which keeps the others from being retried. -/
  batchLost : Bool
  /-- The number of documents pulled. -/
  position : Nat
  batcher : Batcher
  inFlight : List Submission
  tracker : Tracker
  batches : Nat
  retries : Nat
  unsent : Nat
  halt : Option Halt
  journal : Journal

inductive Action
  | cancel
  | pull (pull : Pull)
  /-- The driver notices that the run was asked to stop. -/
  | stop
  | send (sequence : Nat)
  | answer (sequence : Nat) (answer : Answer)
  | timeOut (sequence : Nat)
  /-- The time of a rest is over, also if the run is being stopped by then: the submission finds
  that out at its next turn, which is to go on or to give up. -/
  | wake (sequence : Nat)
  | abandon (sequence : Nat)
  | absorb (sequence : Nat)
  | close

namespace Machine

def start (config : PipelineConfig) (cancelled : Bool) : Machine where
  config
  phase := .pulling
  cancelled
  batchLost := false
  position := 0
  batcher := .empty config.maxBatchCount.toNat config.maxBatchBytes.toNat
  inFlight := []
  tracker := Tracker.new.reset
  batches := 0
  retries := 0
  unsent := 0
  halt := none
  journal := ⟨[], [], []⟩

/-- Whether another submission may be out. -/
def hasRoom (m : Machine) : Bool := m.inFlight.length < m.config.maxInFlight.toNat

def retriesStopped (m : Machine) : Bool := m.cancelled || m.batchLost

def submission? (m : Machine) (sequence : Nat) : Option Submission :=
  m.inFlight.find? (·.sequence = sequence)

def record (m : Machine) (outcomes : List Outcome) : Machine :=
  { m with
    tracker := m.tracker.record outcomes
    journal := { m.journal with recorded := m.journal.recorded ++ outcomes } }

def dispatch (m : Machine) (batch : Batch) : Machine :=
  { m with
    batches := m.batches + 1
    inFlight := m.inFlight ++ [.of batch]
    journal := { m.journal with dispatched := m.journal.dispatched ++ [batch] } }

def dispatch? (m : Machine) : Option Batch → Machine
  | some batch => m.dispatch batch
  | none => m

/-- Ends the pulling, for the first reason there was. -/
def haltWith (m : Machine) (halt : Halt) : Machine :=
  { m with phase := .draining, halt := m.halt.or (some halt) }

def take (m : Machine) : Pull → Machine
  | .document d =>
    let (batch, batcher) := m.batcher.push (m.config.prepare m.position d)
    { m with position := m.position + 1, batcher }.dispatch? batch
  | .finished =>
    let (batch, batcher) := m.batcher.flush
    { m with phase := .draining, batcher }.dispatch? batch
  | .failed reason => m.haltWith (.source (.source reason))

/-- Changes the submission with the given number, if `change` is possible for it. -/
def update? (m : Machine) (sequence : Nat) (change : Submission → Option Submission) :
    Option Machine :=
  match m.submission? sequence >>= change with
  | some changed =>
    some { m with inFlight := m.inFlight.map fun s => if s.sequence = sequence then changed else s }
  | none => none

def noteCall (m : Machine) (sequence : Nat) : Machine :=
  match m.submission? sequence with
  | some s =>
    { m with journal := { m.journal with calls := m.journal.calls ++ [⟨sequence, s.attempts⟩] } }
  | none => m

def panicText (message : Option String) : String :=
  message.getD "panic with a non-string payload"

def loseBatch (m : Machine) (halt : Halt) : Machine := { m with batchLost := true }.haltWith halt

/-- Accounts for a submission that is over. -/
def settle (m : Machine) (s : Submission) : Option Machine :=
  match s.stage with
  | .reported report =>
    let m := { m with retries := m.retries + (report.attempts - 1) }.record report.outcomes
    match report.verdict with
    | .exhausted e => some (m.loseBatch (.exhausted e))
    | .delivered | .abandoned => some m
  | .panicked message =>
    let text := panicText message
    let failures := s.batch.refs.map (Outcome.failed .transport s!"submission panicked: {text}")
    some ((m.record failures).loseBatch (.panicked (.submissionPanicked text)))
  | _ => none

/-- Whether the driver is waiting for a submission to come in. -/
def awaitsSubmission (m : Machine) : Bool :=
  match m.phase with
  | .pulling => !m.hasRoom
  | .draining => !m.inFlight.isEmpty
  | .finished => false

def absorb? (m : Machine) (sequence : Nat) : Option Machine :=
  match m.submission? sequence with
  | some s =>
    if m.awaitsSubmission then
      { m with inFlight := m.inFlight.filter (·.sequence ≠ sequence) }.settle s
    else none
  | none => none

/-- What the batcher still holds when a run was stopped was never sent. -/
def accountUnsent (m : Machine) : Machine :=
  match m.halt, m.batcher.flush with
  | some halt, (some leftovers, batcher) =>
    let failures := leftovers.refs.map
      (Outcome.failed halt.unsentKind "never sent, the run stopped first")
    { m with batcher, unsent := m.unsent + failures.length }.record failures
  | _, _ => m

def canPull (m : Machine) : Bool := m.phase = .pulling && m.hasRoom

def canClose (m : Machine) : Bool := m.phase = .draining && m.inFlight.isEmpty

def step (m : Machine) : Action → Option Machine
  | .cancel => some { m with cancelled := true }
  | .pull pull => if m.canPull && !m.cancelled then some (m.take pull) else none
  | .stop => if m.canPull && m.cancelled then some (m.haltWith .cancelled) else none
  | .send sequence => (m.update? sequence Submission.send?).map (·.noteCall sequence)
  | .answer sequence answer =>
    m.update? sequence (Submission.answer? m.config.retryPolicy m.retriesStopped answer)
  | .timeOut sequence =>
    m.update? sequence (Submission.answer? m.config.retryPolicy m.retriesStopped
      (.failed (.timeout m.config.submitTimeout)))
  | .wake sequence => m.update? sequence Submission.wake?
  | .abandon sequence => if m.retriesStopped then m.update? sequence Submission.abandon? else none
  | .absorb sequence => m.absorb? sequence
  | .close => if m.canClose then some { m.accountUnsent with phase := .finished } else none

/-- The state after a list of actions, if each was possible in its turn. -/
def run? (m : Machine) (actions : List Action) : Option Machine := actions.foldlM step m

def isFinished (m : Machine) : Bool := m.phase = .finished

def summary (m : Machine) : RunSummary :=
  let (terminalState, error) := (m.halt.map Halt.verdict).getD (.completed, none)
  { attempted := m.tracker.snapshot.attempted
    succeeded := m.tracker.snapshot.succeeded
    failed := m.tracker.snapshot.failed
    unsent := m.unsent
    batches := m.batches
    retries := m.retries
    terminalState
    error }

def state (m : Machine) : PipelineState :=
  if m.isFinished then m.summary.terminalState.state else .running

end Machine

end BulkIngest
