import BulkIngest.Failure
import BulkIngest.Outcome
import BulkIngest.Storage.Shelf
import BulkIngest.Trouble

/-!
A file that collects the bodies of bulk requests. Every item of a request that was written whole is
accepted under its own id.
-/

namespace BulkIngest

structure FileSinkConfig where
  fileName : String
  append : Bool
deriving DecidableEq

structure FileSink where
  fileName : String
  shelf : Shelf
deriving DecidableEq

namespace FileSink

/-- Opens the file, which is made or emptied at once, and gives the files as they are then. -/
def «open» (files : Files) (config : FileSinkConfig) : Except Trouble (FileSink × Files) :=
  match files.findOrMake config.fileName with
  | .error fault =>
    .error ((Trouble.of fault.message).within
      (s!"💀 Could not open '{config.fileName}' for writing. " ++
        "Check the directory exists and that we're allowed in."))
  | .ok node =>
    let shelf := Shelf.open node config.append
    .ok (⟨config.fileName, shelf⟩, files.put config.fileName shelf.node)

/-- The files with what was written. -/
def save (sink : FileSink) (files : Files) : Files := files.put sink.fileName sink.shelf.node

def payload (batch : Batch) : Bytes := Text.bytes batch.ndjson

def bulk (limit : Option Nat) (sink : FileSink) (batch : Batch) :
    Except TransportError (List ItemStatus) × FileSink :=
  let (fate, fault) := sink.shelf.outcomeOf limit (payload batch)
  let written := { sink with shelf := sink.shelf.write (payload batch) fate }
  match fault with
  | some fault =>
    (.error (.connection s!"writing to '{sink.fileName}' failed: {fault.message}"), written)
  | none => (.ok (batch.refs.map fun ref => .accepted ref.key), written)

/-- A request that is broken off as soon as it has to wait for the file. -/
def breakOff (sink : FileSink) (batch : Batch) : FileSink :=
  let fate : WriteFate :=
    if sink.shelf.torn then .stoppedMending .uncut else .stoppedWriting (payload batch).length
  { sink with shelf := sink.shelf.write (payload batch) fate }

def close (sink : FileSink) : Except Trouble Unit × FileSink :=
  match sink.shelf.mendFault? with
  | some fault =>
    (.error ((Trouble.of fault.message).within
      s!"💀 Could not trim a torn batch off '{sink.fileName}'"),
      { sink with shelf := sink.shelf.close (.stoppedMending .uncut) })
  | none => (.ok (), { sink with shelf := sink.shelf.close .complete })

end FileSink

end BulkIngest
