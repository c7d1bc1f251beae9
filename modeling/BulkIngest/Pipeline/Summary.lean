import BulkIngest.Failure

/-!
The states of a pipeline and the report at the end of a run.
-/

namespace BulkIngest

inductive PipelineState
  | idle
  | running
  | completed
  | failed
  | cancelled
deriving DecidableEq

namespace PipelineState

def name : PipelineState → String
  | .idle => "Idle"
  | .running => "Running"
  | .completed => "Completed"
  | .failed => "Failed"
  | .cancelled => "Cancelled"

/-- A pipeline runs once: its source cannot start over. -/
def start : PipelineState → Except PipelineError PipelineState
  | .idle => .ok .running
  | _ => .error .alreadyStarted

end PipelineState

/-- How a run ended. -/
inductive TerminalState
  | completed
  | failed
  | cancelled
deriving DecidableEq

namespace TerminalState

def state : TerminalState → PipelineState
  | .completed => .completed
  | .failed => .failed
  | .cancelled => .cancelled

def name : TerminalState → String
  | .completed => "completed"
  | .failed => "failed"
  | .cancelled => "cancelled"

/-- The exit status of a program whose run ended so. -/
def exitStatus : TerminalState → Nat
  | .completed => 0
  | .failed => 1
  | .cancelled => 130

end TerminalState

/-- `unsent` documents were pulled and never sent; they are among the failed ones. `retries` counts
the attempts after the first of every batch that reported. -/
structure RunSummary where
  attempted : Nat
  succeeded : Nat
  failed : Nat
  unsent : Nat
  batches : Nat
  retries : Nat
  terminalState : TerminalState
  error : Option PipelineError
deriving DecidableEq

end BulkIngest
