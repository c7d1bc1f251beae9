import BulkIngest.Retry.Submission
import BulkIngest.Sink.File
import BulkIngest.Sink.Http
import BulkIngest.Sink.Memory

/-!
The sinks that settings can name.
-/

namespace BulkIngest

inductive SinkConfig
  | http (config : HttpSinkConfig)
  | file (config : FileSinkConfig)
  | memory
deriving DecidableEq

inductive SinkBackend
  | http (sink : HttpSink)
  | file (sink : FileSink)
  | memory (sink : MemorySink)
deriving DecidableEq

namespace SinkBackend

/-- Sets up a sink, and gives the files as they are then. -/
def «open» (network : Network) (files : Files) : SinkConfig → Except Trouble (SinkBackend × Files)
  | .http config => (HttpSink.open network config).map fun sink => (.http sink, files)
  | .file config => (FileSink.open files config).map fun (sink, files) => (.file sink, files)
  | .memory => .ok (.memory .empty, files)

def answerOf : Except TransportError (List ItemStatus) → Answer
  | .ok statuses => .statuses statuses
  | .error e => .failed e

def bulk (network : Network) (sink : SinkBackend) (batch : Batch) : Answer × SinkBackend :=
  match sink with
  | .http sink => (answerOf (sink.bulk network batch), .http sink)
  | .file sink =>
    let (answer, sink) := sink.bulk none batch
    (answerOf answer, .file sink)
  | .memory sink =>
    let (statuses, sink) := sink.bulk batch
    (.statuses statuses, .memory sink)

/-- A request that is broken off as soon as it has to wait; `none` if it need not. -/
def breakOff? (sink : SinkBackend) (batch : Batch) : Option SinkBackend :=
  match sink with
  | .http sink => some (.http sink)
  | .file sink => some (.file (sink.breakOff batch))
  | .memory _ => none

def close (sink : SinkBackend) : Except Trouble Unit × SinkBackend :=
  match sink with
  | .http sink => (.ok (), .http sink)
  | .file sink =>
    let (result, sink) := sink.close
    (result, .file sink)
  | .memory sink => (.ok (), .memory sink.close)

/-- The files with what the sink wrote. -/
def save (sink : SinkBackend) (files : Files) : Files :=
  match sink with
  | .file sink => sink.save files
  | .http _ | .memory _ => files

end SinkBackend

end BulkIngest
