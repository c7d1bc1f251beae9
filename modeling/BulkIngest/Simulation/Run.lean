import BulkIngest.Simulation.World

/-!
Whole runs on the clock: from the call that starts a pipeline to its summary, or to the time after
which nobody waits any longer.
-/

namespace BulkIngest.Simulation

/-- Two weeks. -/
def patience : Nat := 1209600000

/-- More steps than waiting takes within that time. -/
def stepLimit : Nat := 1000000000000

/-- More steps than any run takes that ends within that time: a source adds some with each part of
what it has. -/
def stepsFor (feed : Feed) : Nat := stepLimit + 16 * feed.extent

/-- How a run went. -/
structure Course where
  /-- Absent if the run did not end in time. -/
  summary : Option RunSummary
  state : PipelineState
  progress : Snapshot
  elapsed : Nat
  /-- What the sink is like afterwards. -/
  sink : Sink
  cancelled : Bool
  /-- What is left of the turn in which the run ended. -/
  allowance : Nat

structure Circumstances where
  /-- The time at which the run starts. -/
  start : Nat
  cancelled : Bool
  /-- When somebody cancels the run, counted from its start. -/
  cancelAfter : Option Nat
  /-- What is left of the turn in which the run starts. -/
  allowance : Nat

def opening (c : Circumstances) : List Event :=
  if c.cancelAfter = some 0 then [.cancel] else []

def cancelAlarms (c : Circumstances) : List Alarm :=
  match c.cancelAfter with
  | some (after + 1) => [⟨c.start + (after + 1), .cancel⟩]
  | _ => []

def supplies (feed : Feed) : List Event :=
  match feed with
  | .channel _ => [.supply]
  | _ => []

/-- Opening a file is a wait of its own. -/
def allowanceFor (feed : Feed) (c : Circumstances) : Nat :=
  match feed with
  | .file _ => World.turnSize - 1
  | _ => c.allowance

def World.start (config : PipelineConfig) (feed : Feed) (sink : Sink) (c : Circumstances) :
    World where
  now := c.start
  machine := .start config c.cancelled
  feed
  sink
  ready := supplies feed ++ opening c
  deferred := []
  finished := []
  passedOver := none
  alarms := cancelAlarms c
  driver := .awake
  round := 0
  allowance := allowanceFor feed c

def run (config : PipelineConfig) (feed : Feed) (sink : Sink) (c : Circumstances) : Course :=
  let w := (World.start config feed sink c).play (c.start + patience) (stepsFor feed)
  { summary := if w.machine.isFinished then some w.machine.summary else none
    state := w.machine.state
    progress := w.machine.tracker.latest
    elapsed := w.now - c.start
    sink := w.sink
    cancelled := w.machine.cancelled
    allowance := w.allowance }

end BulkIngest.Simulation
