import BulkIngest.Progress.Snapshot
import BulkIngest.Sink.Backend

/-!
Sinks on a clock of milliseconds. A scripted sink answers each attempt as its script says and keeps
a log of the requests; the other sinks answer at once.
-/

namespace BulkIngest.Simulation

/-- What a scripted sink does with a request in the end. -/
inductive Deed
  | hang
  /-- It breaks down, with a message that may depend on the number of the batch. -/
  | breakDown (message : Nat → Option String)
  | fail (e : TransportError)
  | answer (statuses : List ItemStatus)
  | accept (count : Nat)
  /-- It accepts each item, but refuses the last one of every so many. -/
  | judge (rejectEvery : Option Nat)

structure Response where
  /-- How long it sleeps first, if it sleeps at all. -/
  delay : Option Nat
  /-- Whether the run is cancelled when the delay is over. -/
  cancels : Bool
  deed : Deed

def Response.plain : Response := ⟨none, false, .judge none⟩

/-- A request as a scripted sink saw it. -/
structure LoggedCall where
  time : Nat
  sequence : Nat
  attempt : Nat
  bytes : Nat
  progress : Option Snapshot
  /-- The body, on the first attempt. -/
  body : Option String
deriving DecidableEq

structure ScriptedSink where
  standard : List Response
  special : List (Nat × List Response)
  log : List LoggedCall

/-- What becomes of a request: nothing for a while, and then perhaps an answer. -/
structure Reply where
  delay : Option Nat
  cancels : Bool
  answer : Option Answer

namespace ScriptedSink

def judgement (rejectEvery : Option Nat) (item : BulkItem) : ItemStatus :=
  match rejectEvery with
  | some n =>
    if item.ref.position % n = n - 1 then .rejected 400 "mapper_parsing_exception"
    else .accepted none
  | none => .accepted none

def answerOf (batch : Batch) : Deed → Option Answer
  | .hang => none
  | .breakDown message => some (.panicked (message batch.sequence))
  | .fail e => some (.failed e)
  | .answer statuses => some (.statuses statuses)
  | .accept count => some (.statuses (List.replicate count (.accepted none)))
  | .judge rejectEvery => some (.statuses (batch.items.map (judgement rejectEvery)))

/-- The entry for an attempt; the last one holds for all later attempts. -/
def entryFor (script : List Response) (attempt : Nat) : Response :=
  match script[attempt - 1]? with
  | some response => response
  | none => script.getLast?.getD .plain

def call (sink : ScriptedSink) (now : Nat) (progress : Option Snapshot) (batch : Batch) :
    Reply × ScriptedSink :=
  let attempt := sink.log.countP (·.sequence = batch.sequence) + 1
  let script := (sink.special.lookup batch.sequence).getD sink.standard
  let response := entryFor script attempt
  let logged : LoggedCall :=
    ⟨now, batch.sequence, attempt, batch.bytes, progress,
      if attempt = 1 then some batch.ndjson else none⟩
  (⟨response.delay, response.cancels, answerOf batch response.deed⟩,
    { sink with log := sink.log ++ [logged] })

end ScriptedSink

inductive Sink
  | scripted (sink : ScriptedSink)
  | backend (network : Network) (sink : SinkBackend)

namespace Sink

def call (sink : Sink) (now : Nat) (progress : Option Snapshot) (batch : Batch) : Reply × Sink :=
  match sink with
  | .scripted sink =>
    let (reply, sink) := sink.call now progress batch
    (reply, .scripted sink)
  | .backend network sink =>
    let (answer, sink) := sink.bulk network batch
    (⟨none, false, some answer⟩, .backend network sink)

/-- A request that has no time at all; `none` if the sink need not wait for anything. -/
def breakOff? (sink : Sink) (batch : Batch) : Option Sink :=
  match sink with
  | .scripted _ => none
  | .backend network sink => (sink.breakOff? batch).map (.backend network)

end Sink

end BulkIngest.Simulation
