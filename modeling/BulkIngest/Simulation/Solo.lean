import BulkIngest.Simulation.World

/-!
One submission alone on a clock of milliseconds. Somebody else may cancel it, but comes to that only
when the submission waits for the clock or has used up its turn.
-/

namespace BulkIngest.Simulation

structure Solo where
  now : Nat
  submission : Submission
  cancelled : Bool
  sink : Sink
  /-- How many more waits may be over in this turn. -/
  allowance : Nat
  /-- Whether others had a turn already. -/
  paused : Bool

structure SoloSettings where
  policy : RetryPolicy
  timeout : Duration
  /-- When somebody cancels. -/
  cancelAt : Option Nat

namespace Solo

def of (batch : Batch) (cancelled : Bool) (sink : Sink) : Solo where
  now := 0
  submission := .of batch
  cancelled
  sink
  allowance := World.turnSize
  paused := false

/-- A wait that is over at once. -/
def spend (solo : Solo) : Solo :=
  match solo.allowance with
  | 0 => { solo with allowance := World.turnSize - 1, paused := true }
  | allowance + 1 => { solo with allowance }

/-- A wait for the clock. -/
def pause (solo : Solo) (after : Nat) : Solo :=
  if after = 0 then solo.spend
  else { solo with now := solo.now + after, allowance := World.turnSize - 1, paused := true }

/-- Whether no rest may begin any more. -/
def isStopped (settings : SoloSettings) (solo : Solo) : Bool :=
  match settings.cancelAt with
  | some time => solo.cancelled || (solo.paused && time ≤ solo.now)
  | none => solo.cancelled

def conclude (settings : SoloSettings) (solo : Solo) (answer : Answer) : Solo :=
  let stopped := solo.isStopped settings
  match solo.submission.answer? settings.policy stopped answer with
  | some submission => { solo with submission }
  | none => solo

def expire (settings : SoloSettings) (solo : Solo) (after : Nat) : Answer × Solo :=
  (.failed (.timeout settings.timeout), solo.pause after)

/-- The request on the wire, up to its answer or its deadline. -/
def call (settings : SoloSettings) (solo : Solo) : Answer × Solo :=
  let batch := solo.submission.batch
  let timeout := settings.timeout.millisecondsUp
  match if timeout = 0 then solo.sink.breakOff? batch else none with
  | some sink => { solo with sink }.expire settings 0
  | none =>
    let (reply, sink) := solo.sink.call solo.now none batch
    let solo := { solo with sink }
    let delay := reply.delay.getD 0
    if delay = 0 ∨ (timeout ≠ 0 ∧ delay ≤ timeout) then
      let slept := if reply.delay.isSome then solo.pause delay else solo
      let after := { slept with cancelled := solo.cancelled || reply.cancels }
      match reply.answer with
      | some answer => (answer, after)
      | none => after.expire settings (timeout - delay)
    else solo.expire settings timeout

def request (settings : SoloSettings) (solo : Solo) : Solo :=
  let called := solo.call settings
  called.2.conclude settings called.1

/-- One attempt and no other. -/
def trySubmit (settings : SoloSettings) (solo : Solo) : Reading × Solo :=
  (solo.call settings).map solo.submission.batch.reading id

/-- One attempt that has an outcome for each item, unless the sink breaks down. -/
def submit (settings : SoloSettings) (solo : Solo) : Except (Option String) (List Outcome) × Solo :=
  (solo.call settings).map solo.submission.batch.submit id

/-- The rest before the next attempt, which somebody may cut short. -/
def rest (settings : SoloSettings) (solo : Solo) (delay : Nat) : Solo :=
  let move (after : Nat) (change : Submission → Option Submission) : Solo :=
    { solo.pause after with submission := (change solo.submission).getD solo.submission }
  match settings.cancelAt with
  | some time =>
    if time < solo.now + delay then move (time - solo.now) Submission.abandon?
    else move delay Submission.wake?
  | none => move delay Submission.wake?

def play (settings : SoloSettings) : Nat → Solo → Solo
  | 0, solo => solo
  | fuel + 1, solo =>
    match solo.submission.stage with
    | .queued | .rested _ =>
      match solo.submission.send? with
      | some submission => play settings fuel ({ solo with submission }.request settings)
      | none => solo
    | .resting _ =>
      let delay := ((solo.submission.delays.getLast?).getD .zero).millisecondsUp
      play settings fuel (solo.rest settings delay)
    | .sending | .reported _ | .panicked _ => solo

end Solo

end BulkIngest.Simulation
