import BulkIngest.Source.Channel
import BulkIngest.Source.File
import BulkIngest.Source.Memory

/-!
Sources on a clock of milliseconds. Asked for a document, a source has one, or says what it waits
for.
-/

namespace BulkIngest.Simulation

/-- What a scripted source does when it is asked. -/
structure SourceStep where
  /-- How long it sleeps, if it sleeps at all. -/
  delay : Option Nat
  /-- Whether the run is cancelled when the delay is over. -/
  cancels : Bool
  /-- What it then brings, if anything. -/
  pull : Option Pull

structure ScriptedSource where
  steps : List SourceStep
  sizeHint : Option Nat
  /-- The end of the delay that is going on. -/
  sleepsUntil : Option Nat

/-- A queue with somebody who fills it from a script and then leaves. -/
structure SuppliedChannel where
  channel : Channel
  supplies : List (Except String Document)
  /-- Whether the supplier waits for room. -/
  blocked : Bool

/-- A file of which only a part has been read so far. Reading takes no time, but others run
meanwhile. -/
structure FileReading where
  source : FileSource
  size : Nat
  loaded : Nat
  sawEnd : Bool
  /-- Whether somebody waits for the part that is being read. -/
  awaited : Bool

inductive Feed
  | list (source : ListSource)
  | stream (source : StreamSource)
  | file (reading : FileReading)
  | channel (source : SuppliedChannel)
  | scripted (source : ScriptedSource)

inductive Polled
  /-- Here is what it brings, and whether something was waited for to have it. -/
  | ready (pull : Pull) (cancels waited : Bool)
  /-- It sleeps until the given time. -/
  | sleeping (due : Nat)
  /-- It goes on when everyone else had a turn. -/
  | yielding
  /-- It waits for somebody else, or for ever. -/
  | waiting
  /-- It cancels the run and waits for ever. -/
  | cancelling

namespace ScriptedSource

def act (source : ScriptedSource) (step : SourceStep) (rest : List SourceStep) :
    Polled × ScriptedSource :=
  match step.pull with
  | some pull =>
    (.ready pull step.cancels step.delay.isSome,
      { source with steps := rest, sleepsUntil := none })
  | none =>
    (if step.cancels then .cancelling else .waiting,
      { source with steps := [⟨none, false, none⟩], sleepsUntil := none })

def poll (now : Nat) (source : ScriptedSource) : Polled × ScriptedSource :=
  match source.steps with
  | [] => (.ready .finished false false, source)
  | step :: rest =>
    match source.sleepsUntil with
    | some due => if due ≤ now then source.act step rest else (.waiting, source)
    | none =>
      let delay := step.delay.getD 0
      if delay = 0 then source.act step rest
      else (.sleeping (now + delay), { source with sleepsUntil := some (now + delay) })

end ScriptedSource

namespace SuppliedChannel

def supplyAll (channel : Channel) :
    List (Except String Document) → Channel × List (Except String Document)
  | [] => (channel.dropSender, [])
  | entry :: rest =>
    match channel.send entry with
    | (.sent, channel) => supplyAll channel rest
    | (_, channel) => (channel, entry :: rest)

/-- The supplier fills the queue, and leaves when everything is in it. -/
def supply (source : SuppliedChannel) : SuppliedChannel :=
  let (channel, supplies) := supplyAll source.channel source.supplies
  ⟨channel, supplies, !supplies.isEmpty⟩

end SuppliedChannel

namespace FileReading

def chunkSize : Nat := 8192

/-- The number of octets in lines. -/
def lineSize (lines : List Bytes) : Nat := lines.foldr (fun line size => line.length + size) 0

def unreadSize (source : FileSource) : Nat :=
  match source.rest with
  | .lines unread => lineSize unread
  | .unreadable _ | .array _ => 0

def of (source : FileSource) : FileReading := ⟨source, unreadSize source, 0, false, false⟩

def loadMore (reading : FileReading) : FileReading :=
  if reading.loaded < reading.size then
    { reading with loaded := min reading.size (reading.loaded + chunkSize) }
  else { reading with sawEnd := true }

/-- The octets of a file that is read line by line, and its lines, or the documents of one that was
read at once. -/
def extent (reading : FileReading) : Nat :=
  match reading.source.rest with
  | .lines unread => reading.size + unread.length
  | .unreadable _ => reading.size
  | .array documents => reading.size + documents.length

/-- Whether the last line that is read ends the file without a newline. -/
def endsOpen (before after : List Bytes) : Bool :=
  after.isEmpty &&
    match before.getLast? with
    | some line => line.getLast? ≠ some 0x0A
    | none => true

/-- Whether what was read so far is enough to tell what comes next. -/
def isEnough (reading : FileReading) (pull : Pull) (after : FileSource) : Bool :=
  match reading.source.rest, after.rest with
  | .lines before, .lines unread =>
    let seesEnd :=
      match pull with
      | .finished => true
      | _ => endsOpen before unread
    after.offset ≤ reading.loaded && (!seesEnd || reading.sawEnd)
  | .unreadable _, _ => reading.sawEnd
  | _, _ => true

def poll (reading : FileReading) : Polled × FileReading :=
  let (pull, source) := reading.source.next
  if reading.isEnough pull source then
    (.ready pull false reading.awaited, { reading with source, awaited := false })
  else (.yielding, { reading.loadMore with awaited := true })

end FileReading

namespace Feed

def poll (now : Nat) : Feed → Polled × Feed
  | .list source =>
    let (pull, source) := source.next
    (.ready pull false false, .list source)
  | .stream source =>
    let (pull, source) := source.next
    (.ready pull false false, .stream source)
  | .file reading =>
    let (polled, reading) := reading.poll
    (polled, .file reading)
  | .channel source =>
    match source.channel.next with
    | (some pull, rest) => (.ready pull false false, .channel { source with channel := rest })
    | (none, _) => (.waiting, .channel source)
  | .scripted source =>
    let (polled, source) := source.poll now
    (polled, .scripted source)

/-- How much a source has to bring. -/
def extent : Feed → Nat
  | .list source => source.documents.length
  | .stream source => source.script.length
  | .file reading => reading.extent
  | .channel source => source.channel.queue.length + source.supplies.length
  | .scripted source => source.steps.length

def sizeHint : Feed → Option Nat
  | .list source => source.sizeHint
  | .stream source => source.sizeHint
  | .file reading => reading.source.sizeHint
  | .channel _ => none
  | .scripted source => source.sizeHint

end Feed

end BulkIngest.Simulation
