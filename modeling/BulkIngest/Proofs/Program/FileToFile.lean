import Mathlib
import BulkIngest.Program.Run
import BulkIngest.Proofs.Simulation.Transfer
import BulkIngest.Proofs.Source.Lines

/-!
A whole run from one file to another. Whatever the bounds on batches and the settings for retries
are, the file in the end has what was there before and then two lines for each document that was
sent, which are the first ones that could be read, in order; and the summary says how many they are
and why there are no more.
-/

namespace BulkIngest

/-- The body of a request is that of its items, one after the other. -/
theorem bytes_ndjson_eq_flatMap (items : List BulkItem) :
    Text.bytes (ndjson items) = items.flatMap fun item => Text.bytes item.ndjson := by
  induction items with
  | nil => rfl
  | cons item rest ih =>
      have front : ndjson (item :: rest) = item.ndjson ++ ndjson rest := rfl
      rw [front, Text.bytes_append, ih, List.flatMap_cons]

theorem countP_unsent_isSuccess (halt : Option Halt) (items : List BulkItem) :
    (Machine.unsentOutcomesOf halt items).countP (·.isSuccess) = 0 := by
  rw [List.countP_eq_zero]
  intro outcome mem
  cases halt with
  | none => simp [Machine.unsentOutcomesOf] at mem
  | some halt =>
      obtain ⟨ref, -, rfl⟩ := List.mem_map.mp mem
      simp [Outcome.isSuccess, Outcome.failed]

namespace Simulation.Transfer

variable {t : Transfer} {m : Machine} {w : World}

theorem documents_of_pulls {actions : List Action} (all : pulls actions = t.yield.pulls) :
    documents actions = t.yield.documents := by
  have closes : t.yield.last.document? = none := by
    cases fault : t.yield.fault <;> simp only [FileSource.Yield.last, fault, Pull.document?]
  rw [documents_eq, all, FileSource.Yield.pulls, List.filterMap_append, Pull.filterMap_document?,
    List.filterMap_cons, closes, List.filterMap_nil, List.append_nil]

/-- The documents that were sent are the first ones, as many as have succeeded; the others were
never sent. -/
theorem Reached.counts (h : t.Reached m t.yield.pulls) (finished : m.isFinished = true) :
    m.journal.dispatched.flatMap (·.items) =
        (t.config.items t.yield.documents).take m.summary.succeeded ∧
      m.summary.succeeded + m.summary.unsent = m.summary.attempted ∧
      m.summary.attempted = t.yield.documents.length := by
  obtain ⟨actions, run, all, quiet, delivered⟩ := h
  have answered := Machine.answered_of_run run
  have custody := Machine.custody_of_run run
  obtain ⟨unsent, ledger⟩ := Machine.ledger_of_run run
  obtain ⟨out, pending⟩ := (Machine.phased_of_run run).finished (of_decide_eq_true finished)
  obtain ⟨attempted, succeeded, -⟩ := Machine.summary_counts run
  have items := ledger.items
  rw [pending, List.append_nil, documents_of_pulls all, Machine.config_of_run run] at items
  -- Nothing is out any more, so what was sent is what came in, and only deliveries came in.
  have held : (((Machine.start t.config false).absorbed actions).flatMap (·.outcomes)).length =
      (m.journal.dispatched.flatMap (·.items)).length := by
    have length := (custody.held.flatMap_right (·.items)).length_eq
    rw [out, List.append_nil, List.flatMap_map, List.length_flatMap] at length
    exact (Machine.length_outcomes answered).trans length
  have came : (((Machine.start t.config false).absorbed actions).flatMap (·.outcomes)).countP
      (·.isSuccess) = (m.journal.dispatched.flatMap (·.items)).length := by
    rw [← held, List.countP_eq_length]
    intro outcome mem
    obtain ⟨s, here, mem⟩ := List.mem_flatMap.mp mem
    exact (delivered s here).2 outcome mem
  have count : m.summary.succeeded = (m.journal.dispatched.flatMap (·.items)).length := by
    rw [succeeded, ledger.recorded, List.countP_append, came, countP_unsent_isSuccess, Nat.add_zero]
  have withheld : (Machine.unsentOutcomesOf m.halt unsent).length = unsent.length := by
    simpa using congrArg List.length (Machine.refs_unsentOutcomesOf ledger.reason)
  have whole := congrArg List.length items
  rw [List.length_append, PipelineConfig.length_items] at whole
  have unsent_eq : m.summary.unsent = unsent.length := ledger.withheld
  refine ⟨?_, ?_, ?_⟩
  · rw [count, ← items, List.take_left]
  · rw [attempted, ledger.recorded, List.length_append, withheld, held, count, unsent_eq]
  · rw [attempted, ledger.recorded, List.length_append, withheld, held, whole]

/-- The summary says why there is no more. -/
theorem Reached.verdict (h : t.Reached m t.yield.pulls) (finished : m.isFinished = true) :
    match t.yield.fault with
    | none => m.summary.terminalState = .completed ∧ m.summary.error = none ∧ m.summary.unsent = 0
    | some reason => m.summary.terminalState = .failed ∧
        m.summary.error = some (.source reason) := by
  have going := h.not_cancelled
  obtain ⟨actions, run, all, quiet, delivered⟩ := h
  have halted := Machine.halt_eq_none_iff run finished
  have pulled (pull : Pull) : .pull pull ∈ actions ↔ pull ∈ t.yield.pulls := by
    rw [← all, pulls, List.mem_filterMap]
    constructor
    · exact fun mem => ⟨_, mem, rfl⟩
    · rintro ⟨action, mem, same⟩
      cases action with
      | pull other => exact Option.some.inj same ▸ mem
      | _ => contradiction
  have last (pull : Pull) (closes : pull.document? = none) :
      pull ∈ t.yield.pulls ↔ pull = t.yield.last := by
    rw [FileSource.Yield.pulls, List.mem_append, List.mem_singleton, or_iff_right]
    intro mem
    obtain ⟨d, -, rfl⟩ := List.mem_map.mp mem
    contradiction
  cases fault : t.yield.fault with
  | none =>
      have unhalted : m.halt = none := by
        refine halted.mpr ⟨?_, fun s mem => (delivered s mem).1⟩
        rw [pulled, last _ rfl, FileSource.Yield.last, fault]
      exact ⟨(Machine.completed_iff_halt m).mpr unhalted, by simp [Machine.summary, unhalted],
        (Machine.recorded_of_halt run unhalted).1⟩
  | some reason =>
      have ending : t.yield.last = .failed reason := by rw [FileSource.Yield.last, fault]
      cases halt : m.halt with
      | none =>
          have ended := (halted.mp halt).1
          rw [pulled, last _ rfl, ending] at ended
          contradiction
      | some halt =>
          cases Machine.cause_of_halt run halt with
          | source other failed =>
              rw [pulled, last _ rfl, ending, Pull.failed.injEq] at failed
              simp [Machine.summary, halt, Halt.verdict, failed]
          | cancelled asked =>
              rw [going] at asked
              contradiction
          | submission s mem halt brought =>
              rw [(delivered s mem).1] at brought
              contradiction

/-- A run that is begun with a source that was just opened and a file that has `base`. -/
theorem going_start {source : FileSource} {sink : FileSink} {c : Circumstances}
    (unread : source.offset = 0) (yields : source.yield = t.yield)
    (name : sink.fileName = t.fileName)
    (intact : sink.shelf.Intact t.base) (going : c.cancelled = false)
    (alone : c.cancelAfter = none) :
    t.Going (World.start t.config (.file (.of source)) (.backend t.network (.file sink)) c).turnOver
      (t.yield.documents.length + 1 + (FileReading.of source).missing) := by
  have ready : supplies (.file (.of source)) ++ opening c = [] := by
    simp [supplies, opening, alone]
  have alarms : cancelAlarms c = [] := by simp only [cancelAlarms, alone]
  refine going_turnOver ⟨⟨[], ?_, ?_⟩, ⟨rfl, rfl, alarms⟩, sink, rfl, name, ?_⟩ rfl ready rfl
  · simp only [World.start, going]
    exact reached_start t
  · exact .pulling (.of source) t.yield.documents rfl rfl (FileReading.sized_of unread) yields rfl
  · exact (List.append_nil t.base).symm ▸ intact

/-- A run from file to file ends, and shows what it has done. -/
theorem run_done {source : FileSource} {sink : FileSink} {c : Circumstances}
    (unread : source.offset = 0) (yields : source.yield = t.yield)
    (name : sink.fileName = t.fileName)
    (intact : sink.shelf.Intact t.base) (going : c.cancelled = false)
    (alone : c.cancelAfter = none) :
    ∃ m sink', t.Reached m t.yield.pulls ∧ m.isFinished = true ∧ sink'.fileName = t.fileName ∧
      sink'.shelf.Intact (t.base ++ m.journal.dispatched.flatMap FileSink.payload) ∧
      (run t.config (.file (.of source)) (.backend t.network (.file sink)) c).summary =
        some m.summary ∧
      (run t.config (.file (.of source)) (.backend t.network (.file sink)) c).sink =
        .backend t.network (.file sink') := by
  have start := going_start unread yields name intact going alone
  have enough : 2 * (t.yield.documents.length + 1 + (FileReading.of source).missing) + 5 ≤
      stepsFor (.file (.of source)) := by
    have bound := FileReading.length_missing_le source
    rw [yields] at bound
    simp only [stepsFor, stepLimit, Feed.extent]
    omega
  have roomy : 2 < World.turnSize - 1 := by decide
  have ready :
      (World.start t.config (.file (.of source)) (.backend t.network (.file sink)) c).ready =
      [] := by
    simp [World.start, supplies, opening, alone]
  obtain ⟨ended, reached, sink', backend, name', intact'⟩ :=
    play_done ready rfl (.inl start) roomy enough
  exact ⟨_, sink', reached, ended, name', intact', by simp only [Simulation.run, ended, if_true],
    backend⟩

end Simulation.Transfer

/-- The same settings with other bounds on batches. -/
def PipelineConfig.withBounds (config : PipelineConfig) (count bytes : UInt64) : PipelineConfig :=
  { config with maxBatchCount := count, maxBatchBytes := bytes }

namespace Settings

open FilePath (canonical)
open Simulation (Transfer)

variable {network : Network} {files : Files} {settings : Settings} {sourceConfig : FileSourceConfig}
  {sinkConfig : FileSinkConfig} {source : FileSource} {initial : Bytes}

/-- The two lines of an item in a file. -/
def linesOf (item : BulkItem) : Bytes :=
  Text.bytes item.actionLine ++ [0x0A] ++ Text.bytes item.source ++ [0x0A]

theorem bytes_item_ndjson (item : BulkItem) : Text.bytes item.ndjson = linesOf item := by
  have newline : Text.bytes "\n" = [0x0A] := rfl
  rw [BulkItem.ndjson, Text.bytes_append, Text.bytes_append, Text.bytes_append, newline, linesOf]

theorem payload_eq_flatMap (batch : Batch) :
    FileSink.payload batch = batch.items.flatMap linesOf := by
  rw [FileSink.payload, Batch.ndjson, bytes_ndjson_eq_flatMap]
  exact List.flatMap_congr fun item _ => bytes_item_ndjson item

/-- What a run from file to file comes to: `base` was in the file before, and `yield` is what the
source has to bring. -/
structure Transferred (config : PipelineConfig) (fileName : String) (base : Bytes)
    (yield : FileSource.Yield) (summary : RunSummary) (files : Files) : Prop where
  content : files.read fileName =
    .ok (base ++ ((config.items yield.documents).take summary.succeeded).flatMap linesOf)
  balanced : summary.succeeded + summary.unsent = summary.attempted
  attempted : summary.attempted = yield.documents.length
  verdict :
    match yield.fault with
    | none => summary.terminalState = .completed ∧ summary.error = none ∧ summary.unsent = 0
    | some reason => summary.terminalState = .failed ∧ summary.error = some (.source reason)

theorem run_transfers (network : Network)
    (fromFile : settings.source = .file sourceConfig) (toFile : settings.sink = .file sinkConfig)
    (apart : canonical sourceConfig.fileName ≠ canonical sinkConfig.fileName)
    (opens : FileSource.open files sourceConfig = .ok source)
    (found : files.findOrMake sinkConfig.fileName = .ok (.file initial))
    (accepted : settings.pipeline.complaint? = none) (single : settings.pipeline.maxInFlight = 1)
    (inTime : settings.pipeline.submitTimeoutMs = 0 → settings.pipeline.SendsNothing source.yield) :
    ∃ summary files', settings.run network files false = .ran summary (.ok ()) files' ∧
      Transferred settings.pipeline sinkConfig.fileName (if sinkConfig.append then initial else [])
        source.yield summary files' := by
  let t : Transfer := ⟨settings.pipeline, network, sinkConfig.fileName,
    if sinkConfig.append then initial else [], source.yield, single, inTime⟩
  let sink : FileSink := ⟨sinkConfig.fileName, .open (.file initial) sinkConfig.append⟩
  obtain ⟨before, last, taken, place⟩ := Files.place_of_findOrMake found
  obtain ⟨same, unread⟩ := FileSource.of_open opens
  have intact := Shelf.intact_open initial sinkConfig.append
  have sourceOpen : SourceBackend.open files settings.source = .ok (.file source) := by
    rw [fromFile, SourceBackend.open, opens]
    rfl
  have sinkOpen : SinkBackend.open network files settings.sink =
      .ok (.file sink, files.put sinkConfig.fileName sink.shelf.node) := by
    simp only [toFile, SinkBackend.open, FileSink.open, found]
    rfl
  have valid : settings.pipeline.validate = .ok () := by
    simp only [PipelineConfig.validate, accepted]
  -- The lines are those of the file after the sink was opened, which is another file.
  have still : source.refresh (files.put sinkConfig.fileName sink.shelf.node) = source :=
    FileSource.refresh_put opens place.free apart
  have sameName : sink.fileName = t.fileName := rfl
  obtain ⟨m, sink', reached, ended, name, written, summary, backend⟩ :=
    Transfer.run_done (c := ⟨0, false, none, Simulation.World.turnSize⟩) unread rfl sameName
      intact rfl rfl
  have closing : sink'.close = (.ok (), { sink' with shelf := sink'.shelf.close .complete }) := by
    simp only [FileSink.close, written.mendFault?_eq]
  have ran : settings.run network files false = .ran m.summary (.ok ())
      ((files.put sinkConfig.fileName sink.shelf.node).put sink'.fileName
        (sink'.shelf.close .complete).node) := by
    simp only [Settings.run, sourceOpen, sinkOpen, valid, SourceBackend.refresh, still, feedOf]
    change endingOf (Simulation.run t.config (.file (.of source)) (.backend t.network (.file sink))
      ⟨0, false, none, Simulation.World.turnSize⟩) _ = _
    simp only [endingOf, backend, summary, SinkBackend.close, closing, SinkBackend.save,
      FileSink.save]
  obtain ⟨sent, balanced, all⟩ := reached.counts ended
  refine ⟨m.summary, _, ran, ?_, balanced, all, reached.verdict ended⟩
  have node : (sink'.shelf.close .complete).node =
      .file ((if sinkConfig.append then initial else []) ++
        m.journal.dispatched.flatMap FileSink.payload) := by
    rw [(written.close .complete).file, written.content_close]
  have name : sink'.fileName = sinkConfig.fileName := name
  have payload : m.journal.dispatched.flatMap FileSink.payload =
      (m.journal.dispatched.flatMap (·.items)).flatMap linesOf := by
    rw [List.flatMap_assoc]
    exact List.flatMap_congr fun batch _ => payload_eq_flatMap batch
  rw [name, node, payload, sent]
  exact (place.put (by rw [intact.file]; simp)).read_put _

namespace Transferred

variable {config : PipelineConfig} {fileName : String} {base : Bytes} {yield : FileSource.Yield}
  {summary : RunSummary}

theorem failed_of_fault (h : Transferred config fileName base yield summary files) {reason : String}
    (fault : yield.fault = some reason) :
    summary.terminalState = .failed ∧ summary.error = some (.source reason) := by
  have verdict := h.verdict
  rw [fault] at verdict
  exact verdict

/-- Without anything unreadable all documents are in the file. -/
theorem content_eq (h : Transferred config fileName base yield summary files)
    (readable : yield.fault = none) :
    files.read fileName = .ok (base ++ (config.items yield.documents).flatMap linesOf) := by
  have verdict := h.verdict
  rw [readable] at verdict
  have whole : summary.succeeded = (config.items yield.documents).length := by
    rw [PipelineConfig.length_items, ← h.attempted, ← h.balanced, verdict.2.2, Nat.add_zero]
  rw [h.content, whole, List.take_length]

end Transferred

/-- A run from one file to another, with one submission at a time and time for each, ends whatever
the source has to bring and whatever the bounds on batches and the settings for retries are. The
file has then, behind what was there before, two lines for each of the first documents, as many as
have succeeded; all others that could be read were never sent. The run has completed, and nothing
was left, if everything could be read; and otherwise it has failed for what the source said. So
settings that differ in the bounds on batches only make the same file of a source that can be
read. -/
theorem file_to_file (network : Network) (files : Files) (settings : Settings)
    (sourceConfig : FileSourceConfig) (sinkConfig : FileSinkConfig) (source : FileSource)
    (initial : Bytes)
    (fromFile : settings.source = .file sourceConfig) (toFile : settings.sink = .file sinkConfig)
    (apart : canonical sourceConfig.fileName ≠ canonical sinkConfig.fileName)
    (opens : FileSource.open files sourceConfig = .ok source)
    (found : files.findOrMake sinkConfig.fileName = .ok (.file initial))
    (accepted : settings.pipeline.complaint? = none) (single : settings.pipeline.maxInFlight = 1)
    (inTime : settings.pipeline.submitTimeoutMs = 0 → settings.pipeline.SendsNothing source.yield) :
    FileSource.Holds files sourceConfig source.yield ∧
      ∃ summary files', settings.run network files false = .ran summary (.ok ()) files' ∧
        Transferred settings.pipeline sinkConfig.fileName
          (if sinkConfig.append then initial else []) source.yield summary files' ∧
        ∀ count bytes : UInt64, (settings.pipeline.withBounds count bytes).complaint? = none →
          (settings.pipeline.submitTimeoutMs = 0 →
            (settings.pipeline.withBounds count bytes).SendsNothing source.yield) →
          source.yield.fault = none →
          ∃ summary' files'',
            Settings.run network files false
              { settings with pipeline := settings.pipeline.withBounds count bytes } =
              .ran summary' (.ok ()) files'' ∧
            files''.read sinkConfig.fileName = files'.read sinkConfig.fileName := by
  obtain ⟨summary, files', ran, transferred⟩ :=
    run_transfers network fromFile toFile apart opens found accepted single inTime
  refine ⟨FileSource.holds_of_open opens, summary, files', ran, transferred, ?_⟩
  intro count bytes accepted' inTime' readable
  let others : Settings := { settings with pipeline := settings.pipeline.withBounds count bytes }
  have sameSource : others.source = .file sourceConfig := fromFile
  obtain ⟨summary', files'', ran', transferred'⟩ :=
    run_transfers network sameSource toFile apart opens found accepted' single inTime'
  refine ⟨summary', files'', ran', ?_⟩
  rw [transferred'.content_eq readable, transferred.content_eq readable]
  rfl

/-- Two documents with a blank line between them, and then a list. -/
def mixedLines : Bytes := Text.bytes "\x7b\x7d\n\n\x7b\"_id\":\"b\"\x7d\n[]\n"

def mixedFiles : Files := (Files.empty.put "in" (.file mixedLines)).put "out" (.file [0x6F, 0x0A])

def mixedSettings : Settings where
  source := .file ⟨"in", .ndjson⟩
  sink := .file ⟨"out", true⟩
  pipeline := { indexTarget := "idx", maxBatchCount := 1 }

def mixedSource : FileSource := ⟨⟨"in", .ndjson⟩, .lines (Text.lines mixedLines), 0, 0, none⟩

theorem mixedSource_yield :
    mixedSource.yield.documents.length = 2 ∧ mixedSource.yield.fault.isSome = true := by
  decide +kernel

theorem file_to_file_mixedFiles :
    ∃ summary files', mixedSettings.run .absent mixedFiles false = .ran summary (.ok ()) files' ∧
      summary.terminalState = .failed ∧ summary.succeeded + summary.unsent = 2 ∧
      files'.read "out" = .ok ([0x6F, 0x0A] ++
        ((mixedSettings.pipeline.items mixedSource.yield.documents).take summary.succeeded).flatMap
          linesOf) := by
  obtain ⟨documents, faulty⟩ := mixedSource_yield
  obtain ⟨reason, fault⟩ := Option.isSome_iff_exists.mp faulty
  have read : mixedFiles.read "in" = .ok mixedLines := by cbv
  have found : mixedFiles.findOrMake "out" = .ok (.file [0x6F, 0x0A]) := by cbv
  have apart : canonical "in" ≠ canonical "out" := by
    have source : canonical "in" = "in" := by cbv
    have sink : canonical "out" = "out" := by cbv
    rw [source, sink]
    decide
  have timed : mixedSettings.pipeline.submitTimeoutMs ≠ 0 := by decide
  obtain ⟨-, summary, files', ran, transferred, -⟩ :=
    file_to_file .absent mixedFiles mixedSettings ⟨"in", .ndjson⟩ ⟨"out", true⟩ mixedSource
      [0x6F, 0x0A] rfl rfl apart (FileSource.open_ndjson read) found (by decide +kernel) rfl
      (fun atOnce => (timed atOnce).elim)
  have failed := transferred.failed_of_fault fault
  have balanced := transferred.balanced
  rw [transferred.attempted, documents] at balanced
  exact ⟨summary, files', ran, failed.1, balanced, by rw [transferred.content, if_pos rfl]⟩

end Settings

end BulkIngest
