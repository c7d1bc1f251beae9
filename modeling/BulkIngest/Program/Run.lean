import BulkIngest.Settings.Decode
import BulkIngest.Simulation.Run

/-!
One run from its settings. The source is set up before the sink, so that nothing is touched for the
sake of documents that nobody can read; the sink is closed however the run went.
-/

namespace BulkIngest

/-- How a run ended, and the files afterwards. -/
inductive Ending
  | notStarted (trouble : Trouble) (files : Files)
  | ran (summary : RunSummary) (closing : Except Trouble Unit) (files : Files)
  /-- Nobody waited for the end. -/
  | unfinished (files : Files)

namespace Ending

def files : Ending → Files
  | .notStarted _ files | .ran _ _ files | .unfinished files => files

/-- The summary, unless the run could not start or its sink could not be closed. -/
def result : Ending → Except Trouble RunSummary
  | .notStarted trouble _ => .error trouble
  | .ran summary closing _ =>
    match closing with
    | .ok () => .ok summary
    | .error trouble =>
      .error (trouble.within "💀 The run finished but the sink didn't close cleanly")
  | .unfinished _ => .error (.of "no end in two weeks")

end Ending

namespace Settings

open Simulation (Feed)

def feedOf : SourceBackend → Feed
  | .file source => .file (.of source)
  | .memory source => .list source

/-- Closes the sink of a run and puts together what is known of the run. -/
def endingOf (course : Simulation.Course) (files : Files) : Ending :=
  match course.sink with
  | .backend _ sink =>
    let (closing, sink) := sink.close
    match course.summary with
    | some summary => .ran summary closing (sink.save files)
    | none => .unfinished (sink.save files)
  | .scripted _ => .unfinished files

/-- A run that was cancelled before it starts stops as soon as it looks. -/
def run (network : Network) (files : Files) (cancelled : Bool) (settings : Settings) : Ending :=
  match SourceBackend.open files settings.source with
  | .error trouble =>
    .notStarted (trouble.within "💀 Could not set up the source. Nothing was pulled.") files
  | .ok source =>
    match SinkBackend.open network files settings.sink with
    | .error trouble =>
      .notStarted (trouble.within "💀 Could not set up the sink. Nothing was sent.") files
    | .ok (sink, files) =>
      match settings.pipeline.validate with
      | .error e =>
        .notStarted ((Trouble.of e.message).within "💀 The pipeline refused its config") files
      | .ok () =>
        let feed := feedOf (source.refresh files)
        let circumstances : Simulation.Circumstances :=
          { start := 0, cancelled, cancelAfter := none, allowance := Simulation.World.turnSize }
        endingOf (Simulation.run settings.pipeline feed (.backend network sink) circumstances) files

end Settings

end BulkIngest
