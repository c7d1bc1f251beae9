import BulkIngest.Pipeline.Machine
import BulkIngest.Simulation.Feed
import BulkIngest.Simulation.Sink

/-!
A run with a source, a sink and a clock. One thing happens at a time: the driver runs until it has
to wait, then everything that is ready has its turn in the order in which it became ready, and when
nothing is, the clock jumps to the next alarm. Nobody keeps the others waiting for long: in one turn
only so many waits may be over at once, and whoever has used them up gives way and goes on later.
The run itself changes by the actions of its machine only.
-/

namespace BulkIngest.Simulation

inductive Event
  | begin (sequence : Nat)
  | respond (sequence attempt : Nat) (reply : Reply)
  | expire (sequence attempt : Nat)
  | restOver (sequence attempt : Nat)
  | interrupt (sequence : Nat)
  | sourceReady
  | supply
  | cancel

structure Alarm where
  due : Nat
  event : Event

/-- What the driver of the run does. -/
inductive Driver
  | awake
  | awaitsSubmission
  | awaitsSource
deriving DecidableEq

structure World where
  now : Nat
  machine : Machine
  feed : Feed
  sink : Sink
  ready : List Event
  /-- What those who gave way go on with when the round is over, the last one first. -/
  deferred : List Event
  /-- Submissions that are over and wait to be noticed. -/
  finished : List Nat
  /-- The submission that the driver was about to notice when it gave way. -/
  passedOver : Option Nat
  /-- Alarms by the time they are due, earlier set ones first. -/
  alarms : List Alarm
  driver : Driver
  /-- How many events may still have their turn before the driver does. -/
  round : Nat
  /-- How many more waits may be over in this turn of the driver. -/
  allowance : Nat

namespace World

def roundSize : Nat := 61

/-- How many waits may be over in one turn. -/
def turnSize : Nat := 128

def insertAlarm (alarm : Alarm) : List Alarm → List Alarm
  | [] => [alarm]
  | other :: rest =>
    if alarm.due < other.due then alarm :: other :: rest else other :: insertAlarm alarm rest

def setAlarm (w : World) (due : Nat) (event : Event) : World :=
  { w with alarms := insertAlarm ⟨due, event⟩ w.alarms }

def enqueue (w : World) (events : List Event) : World := { w with ready := w.ready ++ events }

def giveWay (w : World) (event : Event) : World := { w with deferred := event :: w.deferred }

/-- Lets the machine act, if it can. -/
def act (w : World) (action : Action) : World :=
  match w.machine.step action with
  | some machine => { w with machine }
  | none => w

def wakeDriver (w : World) (waitsFor : Driver) : World :=
  if w.driver = waitsFor then { w with driver := .awake } else w

/-- Calls everyone who rests before another attempt. -/
def interruptRests (w : World) : World :=
  w.enqueue <| w.machine.inFlight.filterMap fun s =>
    match s.stage with
    | .resting _ => some (.interrupt s.sequence)
    | _ => none

def cancelRun (w : World) : World :=
  if w.machine.cancelled then w
  else ((w.act .cancel).wakeDriver .awaitsSource).interruptRests

def isSending (w : World) (sequence attempt : Nat) : Bool :=
  match w.machine.submission? sequence with
  | some s =>
    match s.stage with
    | .sending => s.attempts = attempt
    | _ => false
  | none => false

def isResting (w : World) (sequence attempt : Nat) : Bool :=
  match w.machine.submission? sequence with
  | some s =>
    match s.stage with
    | .resting _ => s.attempts = attempt
    | _ => false
  | none => false

/-- The rest that a submission has just begun. -/
def restOf (s : Submission) : Nat := ((s.delays.getLast?).getD .zero).millisecondsUp

def timeout (w : World) : Nat := w.machine.config.submitTimeout.millisecondsUp

/-- There is no time to wait for an answer in. -/
def expiresAtOnce (w : World) : Bool := w.machine.config.submitTimeoutMs = 0

/-- No answer has come so far: waits until the deadline, which may be now. -/
def awaitDeadline (w : World) (s : Submission) (allowance : Nat) : World × Nat :=
  let expiry := Event.expire s.sequence s.attempts
  if !w.expiresAtOnce then (w.setAlarm (w.now + w.timeout) expiry, allowance)
  else if allowance = 0 then (w.giveWay expiry, allowance)
  else (w.act (.timeOut s.sequence), allowance - 1)

/-- The time that a reply takes is over. -/
def hear (w : World) (sequence : Nat) (reply : Reply) : World :=
  let w := if reply.cancels then w.cancelRun else w
  match reply.answer with
  | some answer => w.act (.answer sequence answer)
  | none => w

/-- A reply comes at once; if it is no answer, the deadline stays. -/
def settle (w : World) (s : Submission) (reply : Reply) (allowance : Nat) : World × Nat :=
  let heard := w.hear s.sequence reply
  if reply.answer.isSome then (heard, allowance) else heard.awaitDeadline s allowance

/-- A reply sleeps for no time. That may use up the turn, which does not keep the deadline from
being noticed. -/
def settleAwoken (w : World) (s : Submission) (reply : Reply) (allowance : Nat) : World × Nat :=
  if allowance = 0 then
    let waiting := if w.expiresAtOnce then w else (w.awaitDeadline s allowance).1
    (waiting.giveWay (.respond s.sequence s.attempts reply), allowance)
  else if reply.answer.isSome then w.settle s reply (allowance - 1)
  else w.settle s reply (max 1 (allowance - 1))

/-- A reply sleeps for a while; the deadline comes first if it is now. -/
def settleLater (w : World) (s : Submission) (reply : Reply) (delay allowance : Nat) :
    World × Nat :=
  let waiting :=
    if w.expiresAtOnce then w
    else w.setAlarm (w.now + delay) (.respond s.sequence s.attempts reply)
  waiting.awaitDeadline s allowance

def receive (w : World) (s : Submission) (reply : Reply) (allowance : Nat) : World × Nat :=
  match reply.delay with
  | none => w.settle s reply allowance
  | some 0 => w.settleAwoken s reply allowance
  | some (delay + 1) => w.settleLater s reply (delay + 1) allowance

/-- Puts a request on the wire; whatever takes no time happens at once, if the turn allows it. -/
def request (w : World) (s : Submission) (allowance : Nat) : World × Nat :=
  match if w.expiresAtOnce then w.sink.breakOff? s.batch else none with
  | some sink => ({ w with sink }.act (.timeOut s.sequence), allowance)
  | none =>
    let (reply, sink) := w.sink.call w.now (some w.machine.tracker.latest) s.batch
    { w with sink }.receive s reply allowance

/-- Goes on with a submission until it has to wait or has used up its turn. -/
def proceed (fuel : Nat) (sequence allowance : Nat) (w : World) : World :=
  match fuel with
  | 0 => w
  | fuel + 1 =>
    match w.machine.submission? sequence with
    | none => w
    | some s =>
      match s.stage with
      | .queued | .rested _ =>
        let w := w.act (.send sequence)
        match w.machine.submission? sequence with
        | some s =>
          let (w, allowance) := w.request s allowance
          proceed fuel sequence allowance w
        | none => w
      | .sending => w
      | .resting _ =>
        let ending := Event.restOver sequence s.attempts
        if restOf s ≠ 0 then w.setAlarm (w.now + restOf s) ending
        else if allowance = 0 then w.giveWay ending
        else proceed fuel sequence (allowance - 1) (w.act (.wake sequence))
      | .reported _ | .panicked _ =>
        { w with finished := w.finished ++ [sequence] }.wakeDriver .awaitsSubmission

/-- A new turn; the wait that it ends, if it ends one, counts. -/
def handle (fuel : Nat) (w : World) : Event → World
  | .begin sequence => w.proceed fuel sequence turnSize
  | .respond sequence attempt reply =>
    if w.isSending sequence attempt then
      let w := w.hear sequence reply
      if reply.answer.isNone && w.expiresAtOnce then
        (w.act (.timeOut sequence)).proceed fuel sequence (turnSize - 2)
      else w.proceed fuel sequence (turnSize - 1)
    else w
  | .expire sequence attempt =>
    if w.isSending sequence attempt then
      (w.act (.timeOut sequence)).proceed fuel sequence (turnSize - 1)
    else w
  | .restOver sequence attempt =>
    if w.isResting sequence attempt && !w.machine.retriesStopped then
      (w.act (.wake sequence)).proceed fuel sequence (turnSize - 1)
    else w
  | .interrupt sequence => (w.act (.abandon sequence)).proceed fuel sequence turnSize
  | .sourceReady => w.wakeDriver .awaitsSource
  | .supply =>
    match w.feed with
    | .channel source => { w with feed := .channel source.supply }.wakeDriver .awaitsSource
    | _ => w
  | .cancel => w.cancelRun

/-- Room in a queue calls the one who fills it. -/
def callSupplier (w : World) : World :=
  match w.feed with
  | .channel source =>
    if source.blocked then
      { w with feed := .channel { source with blocked := false } }.enqueue [.supply]
    else w
  | _ => w

def takePull (w : World) (pull : Pull) : World :=
  let before := w.machine.inFlight.length
  let w := w.act (.pull pull)
  w.enqueue ((w.machine.inFlight.drop before).map fun s => .begin s.sequence)

def absorb (w : World) (sequence : Nat) : World :=
  let stopped := w.machine.retriesStopped
  let w := w.act (.absorb sequence)
  if !stopped && w.machine.retriesStopped then w.interruptRests else w

/-- The driver runs until it has to wait or has used up its turn. -/
def drive : Nat → World → World
  | 0, w => w
  | fuel + 1, w =>
    if w.machine.isFinished then w
    else if w.machine.canClose then drive fuel (w.act .close)
    else if w.machine.awaitsSubmission then
      match w.finished with
      | [] => { w with driver := .awaitsSubmission }
      | sequence :: finished =>
        if w.allowance = 0 then { w with finished, passedOver := some sequence }
        else drive fuel ({ w with finished, allowance := w.allowance - 1 }.absorb sequence)
    else if w.allowance = 0 then w
    else if w.machine.cancelled then drive fuel (w.act .stop)
    else
      let (polled, feed) := w.feed.poll w.now
      let waiting := { w with feed, driver := .awaitsSource }
      match polled with
      | .ready pull cancels waited =>
        let w := { w with feed, allowance := w.allowance - waited.toNat }.callSupplier.takePull pull
        drive fuel (if cancels then w.cancelRun else w)
      | .sleeping due => waiting.setAlarm due .sourceReady
      | .yielding => waiting.enqueue [.sourceReady]
      | .waiting => waiting
      | .cancelling => waiting.cancelRun

/-- Lets the alarm go off; the source calls the driver, which comes before all others. -/
def ring (w : World) (alarm : Alarm) : World :=
  match alarm.event with
  | .sourceReady => w.wakeDriver .awaitsSource
  | event => w.enqueue [event]

/-- Moves the clock to `time` and lets every alarm go off that is due. -/
def advance (w : World) (time : Nat) : World :=
  let due := w.alarms.takeWhile (·.due ≤ time)
  due.foldl ring { w with now := time, alarms := w.alarms.drop due.length, round := 0 }

/-- The round is over: whoever gave way is ready again. -/
def turnOver (w : World) : World :=
  { w with
    ready := w.ready ++ w.deferred
    deferred := []
    finished := w.finished ++ w.passedOver.toList
    passedOver := none
    round := roundSize }

/-- Runs until the machine is finished or the clock reaches `limit`. -/
def play (limit : Nat) : Nat → World → World
  | 0, w => w
  | fuel + 1, w =>
    match w.ready, w.round with
    | event :: ready, round + 1 => play limit fuel ({ w with ready, round }.handle fuel event)
    | _, _ =>
      let w := w.turnOver
      if w.driver = .awake then
        let w := w.drive fuel
        if w.machine.isFinished then w else play limit fuel { w with allowance := turnSize }
      else if !w.ready.isEmpty then play limit fuel w
      else
        match w.alarms with
        | [] => { w with now := limit }
        | alarm :: _ =>
          if limit ≤ alarm.due then { w with now := limit }
          else play limit fuel (w.advance alarm.due)

end World

end BulkIngest.Simulation
