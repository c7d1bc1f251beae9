import Mathlib
import BulkIngest.Program.Run
import BulkIngest.Proofs.Storage.Paths
import BulkIngest.Settings.Load

/-!
What a run leaves behind that is refused before it starts. The source is looked at before anything
else, so a source that cannot be set up changes nothing. The settings of the pipeline are looked at
last: by then the sink has asked its service once, or has made or emptied its file
(`FileSink.read_open`). Settings that were loaded are not refused there any more
(`complaint?_of_load`).
-/

namespace BulkIngest

open FilePath (canonical)

variable {network : Network} {files files' : Files}

theorem Shelf.node_open_of_device {node : FileNode} (device : ∀ content, node ≠ .file content)
    (appending : Bool) : (Shelf.open node appending).node = node := by
  cases node with
  | file content => exact absurd rfl (device content)
  | directory | fullDevice | nullDevice => rfl

namespace FileSink

variable {config : FileSinkConfig} {sink : FileSink} {other : String} {found : FileNode}

theorem open_cases (opened : FileSink.open files config = .ok (sink, files')) :
    ∃ node, files.findOrMake config.fileName = .ok node ∧
      files' = files.put config.fileName (Shelf.open node config.append).node := by
  simp only [FileSink.open] at opened
  cases made : files.findOrMake config.fileName with
  | error fault =>
      rw [made] at opened
      contradiction
  | ok node =>
      rw [made] at opened
      obtain ⟨-, rfl⟩ := Prod.mk.inj (Except.ok.inj opened)
      exact ⟨node, rfl, rfl⟩

/-- When a file is opened, its content stays or is dropped; a file that is not there is made. -/
theorem read_open (opened : FileSink.open files config = .ok (sink, files')) :
    files'.read config.fileName =
      .ok (if config.append then (files.read config.fileName).toOption.getD [] else []) := by
  obtain ⟨node, made, rfl⟩ := open_cases opened
  obtain ⟨plain, there⟩ := Files.find_or_made made
  cases node with
  | directory => contradiction
  | file content =>
      obtain ⟨before, last, taken, place⟩ := Files.place_of_findOrMake made
      change Files.read (files.put _ (.file _)) _ = _
      rw [place.read_put]
      rcases there with there | ⟨missing, content⟩
      · rw [Files.read, there]
        rfl
      · obtain rfl := FileNode.file.inj content
        rw [Files.read, missing]
        cases config.append <;> rfl
  | fullDevice | nullDevice =>
      have there := there.resolve_right (by simp)
      rw [Shelf.node_open_of_device (by simp),
        Files.read_congr (Files.named?_put_of_held (Files.named?_of_find there)), Files.read, there]
      cases config.append <;> rfl

theorem read_open_of_ne (opened : FileSink.open files config = .ok (sink, files'))
    (different : canonical other ≠ canonical config.fileName) (led : files.find other = .ok found) :
    files'.read other = files.read other := by
  obtain ⟨node, made, rfl⟩ := open_cases opened
  obtain ⟨plain, there⟩ := Files.find_or_made made
  cases node with
  | directory => contradiction
  | file content =>
      obtain ⟨before, last, taken, place⟩ := Files.place_of_findOrMake made
      exact Files.read_put_of_ne place.free different led
  | fullDevice | nullDevice =>
      have there := there.resolve_right (by simp)
      rw [Shelf.node_open_of_device (by simp)]
      exact Files.read_congr (Files.named?_put_of_held (Files.named?_of_find there)) other

end FileSink

/-- The networks answer alike to whoever only asks. -/
def Network.AsksAlike (network network' : Network) : Prop :=
  ∀ request, request.method = .get → network' request = network request

theorem SinkBackend.open_of_asksAlike {network' : Network} (alike : network.AsksAlike network')
    (config : SinkConfig) :
    SinkBackend.open network' files config = SinkBackend.open network files config := by
  cases config with
  | file config => rfl
  | memory => rfl
  | http config =>
      have knocked (base : String) : HttpSink.knock network' base =
        HttpSink.knock network base := by
        simp only [HttpSink.knock]
        cases Http.address base with
        | error trouble => rfl
        | ok url => simp only [alike (HttpSink.ping url) rfl]
      simp only [SinkBackend.open, HttpSink.open, knocked]

theorem SinkBackend.open_file {config : FileSinkConfig} {sink : SinkBackend}
    (opened : SinkBackend.open network files (.file config) = .ok (sink, files')) :
    ∃ fileSink, FileSink.open files config = .ok (fileSink, files') := by
  simp only [SinkBackend.open] at opened
  cases file : FileSink.open files config with
  | error trouble =>
      rw [file] at opened
      contradiction
  | ok made =>
      rw [file] at opened
      obtain ⟨-, rfl⟩ := Prod.mk.inj (Except.ok.inj opened)
      exact ⟨made.1, rfl⟩

theorem SinkBackend.files_of_open {config : SinkConfig} {sink : SinkBackend}
    (elsewhere : ∀ file, config ≠ .file file)
    (opened : SinkBackend.open network files config = .ok (sink, files')) : files' = files := by
  cases config with
  | file config => exact absurd rfl (elsewhere config)
  | memory => exact (Prod.mk.inj (Except.ok.inj opened)).2.symm
  | http config =>
      simp only [SinkBackend.open] at opened
      cases http : HttpSink.open network config with
      | error trouble =>
          rw [http] at opened
          contradiction
      | ok sink =>
          rw [http] at opened
          exact (Prod.mk.inj (Except.ok.inj opened)).2.symm

namespace Settings

variable {settings : Settings} {source : SourceBackend} {sink : SinkBackend} {trouble : Trouble}
  {e : PipelineError}

/-- What is said when the source cannot be set up. -/
def sourceRefusal : String := "💀 Could not set up the source. Nothing was pulled."

/-- What is said when the pipeline does not take its settings. -/
def pipelineRefusal : String := "💀 The pipeline refused its config"

/-- Why a run was refused: the source cannot be set up, or the pipeline does not take its settings
after the source and the sink were set up. `files'` are the files then. -/
inductive Refused (network : Network) (files : Files) (settings : Settings) : Trouble → Files → Prop
  | source {trouble : Trouble}
      (failed : SourceBackend.open files settings.source = .error trouble) :
      Refused network files settings (trouble.within sourceRefusal) files
  | pipeline {source : SourceBackend} {sink : SinkBackend} {files' : Files} {e : PipelineError}
      (opened : SourceBackend.open files settings.source = .ok source)
      (made : SinkBackend.open network files settings.sink = .ok (sink, files'))
      (invalid : settings.pipeline.validate = .error e) :
      Refused network files settings ((Trouble.of e.message).within pipelineRefusal) files'

/-- A run that was started is not refused any more. -/
theorem message_of_result {course : Simulation.Course}
    (failed : (endingOf course files).result = .error trouble) :
    trouble.message = "💀 The run finished but the sink didn't close cleanly" ∨
      trouble.message = "no end in two weeks" := by
  simp only [endingOf] at failed
  cases kind : course.sink with
  | scripted _ =>
      simp only [kind] at failed
      obtain rfl := Except.error.inj failed
      exact .inr rfl
  | backend network sink =>
      cases summed : course.summary with
      | none =>
          simp only [kind, summed] at failed
          obtain rfl := Except.error.inj failed
          exact .inr rfl
      | some summary =>
          simp only [kind, summed, Ending.result] at failed
          split at failed
          · nomatch failed
          · obtain rfl := Except.error.inj failed
            exact .inl rfl

theorem Refused.run_eq (refused : Refused network files settings trouble files')
    (cancelled : Bool) :
    settings.run network files cancelled = .notStarted trouble files' := by
  cases refused with
  | source failed => simp only [run, failed, sourceRefusal]
  | pipeline opened made invalid => simp only [run, opened, made, invalid, pipelineRefusal]

/-- The outermost message of an error tells whether the run was refused. -/
theorem refused_of_result {cancelled : Bool}
    (failed : (settings.run network files cancelled).result = .error trouble)
    (cause : trouble.message = sourceRefusal ∨ trouble.message = pipelineRefusal) :
    Refused network files settings trouble (settings.run network files cancelled).files := by
  simp only [run] at failed ⊢
  cases opened : SourceBackend.open files settings.source with
  | error refusal =>
      simp only [opened] at failed ⊢
      obtain rfl := Except.error.inj failed
      exact .source opened
  | ok source =>
      simp only [opened] at failed ⊢
      cases made : SinkBackend.open network files settings.sink with
      | error refusal =>
          simp only [made] at failed ⊢
          obtain rfl := Except.error.inj failed
          simp [Trouble.within, sourceRefusal, pipelineRefusal] at cause
      | ok sink =>
          obtain ⟨sink, files'⟩ := sink
          simp only [made] at failed ⊢
          cases invalid : settings.pipeline.validate with
          | error e =>
              simp only [invalid] at failed ⊢
              obtain rfl := Except.error.inj failed
              exact .pipeline opened made invalid
          | ok =>
              simp only [invalid] at failed
              rcases message_of_result failed with message | message <;>
                simp [message, sourceRefusal, pipelineRefusal] at cause

theorem Refused.of_asksAlike {network' : Network} (alike : network.AsksAlike network')
    (refused : Refused network files settings trouble files') :
    Refused network' files settings trouble files' := by
  cases refused with
  | source failed => exact .source failed
  | pipeline opened made invalid =>
      rw [← SinkBackend.open_of_asksAlike alike] at made
      exact .pipeline opened made invalid

def SourceFails (files : Files) (settings : Settings) : Prop :=
  ∃ trouble, SourceBackend.open files settings.source = .error trouble

/-- Either nothing was opened, or the source and the sink were. -/
theorem Refused.opened (refused : Refused network files settings trouble files') :
    settings.SourceFails files ∧ files' = files ∨
      ¬settings.SourceFails files ∧
        ∃ sink, SinkBackend.open network files settings.sink = .ok (sink, files') := by
  cases refused with
  | source failed => exact .inl ⟨⟨_, failed⟩, rfl⟩
  | pipeline opened made invalid =>
      refine .inr ⟨?_, _, made⟩
      rintro ⟨trouble, failed⟩
      rw [opened] at failed
      contradiction

/-- A refused run sends nothing: it ends the same whatever the network has to say to anything but
the one question whether a service is there. Only the file of a sink can be another one then. It is
as it was if the source could not be set up, or if it was there and is to be appended to or was
empty; and otherwise it is empty. -/
theorem refusal_harmless_unless_overwriting (network : Network) (files : Files) (cancelled : Bool)
    (settings : Settings) (trouble : Trouble) (files' : Files)
    (failed : (settings.run network files cancelled).result = .error trouble)
    (cause : trouble.message = sourceRefusal ∨ trouble.message = pipelineRefusal)
    (left : (settings.run network files cancelled).files = files') :
    (∀ network', network.AsksAlike network' →
      settings.run network' files cancelled = .notStarted trouble files') ∧
    (settings.SourceFails files ∨ (∀ config, settings.sink ≠ .file config) → files' = files) ∧
    ∀ config, settings.sink = .file config →
      (files'.read config.fileName = files.read config.fileName ↔
        settings.SourceFails files ∨
          ∃ before, files.read config.fileName = .ok before ∧
            (config.append = true ∨ before = [])) ∧
      (files'.read config.fileName = files.read config.fileName ∨
        files'.read config.fileName = .ok []) ∧
      ∀ other found, canonical other ≠ canonical config.fileName → files.find other = .ok found →
        files'.read other = files.read other := by
  have refused := refused_of_result failed cause
  rw [left] at refused
  refine ⟨fun network' alike => (refused.of_asksAlike alike).run_eq cancelled, ?_, ?_⟩
  · rcases refused.opened with ⟨-, same⟩ | ⟨looked, sink, made⟩
    · exact fun _ => same
    · rintro (failed | elsewhere)
      · exact absurd failed looked
      · exact SinkBackend.files_of_open elsewhere made
  · intro config toFile
    rcases refused.opened with ⟨failed, rfl⟩ | ⟨looked, sink, made⟩
    · exact ⟨iff_of_true rfl (.inl failed), .inl rfl, fun _ _ _ _ => rfl⟩
    · rw [toFile] at made
      obtain ⟨sink, opened⟩ := SinkBackend.open_file made
      refine ⟨?_, ?_, fun other found different led =>
        FileSink.read_open_of_ne opened different led⟩
      · rw [FileSink.read_open opened]
        cases files.read config.fileName with
        | error fault => simp [looked]
        | ok before => cases config.append <;> simp [looked, Except.toOption, eq_comm]
      · rw [FileSink.read_open opened]
        cases files.read config.fileName with
        | error fault => cases config.append <;> simp [Except.toOption]
        | ok before => cases config.append <;> simp [Except.toOption]

/-- No documents for a file, in batches of none. -/
def emptyBatches (append : Bool) : Settings where
  source := .memory []
  sink := .file ⟨"out", append⟩
  pipeline := { indexTarget := "idx", maxBatchCount := 0 }

def keptFiles : Files := Files.empty.put "out" (.file [0x6F, 0x0A])

theorem read_keptFiles : keptFiles.read "out" = .ok [0x6F, 0x0A] := by cbv

theorem refused_emptyBatches (append : Bool) :
    ∃ files', (emptyBatches append).run .absent keptFiles false = .notStarted
        ((Trouble.of "🔧 invalid pipeline config: max_batch_count must be at least 1").within
          pipelineRefusal)
        files' ∧
      files'.read "out" = .ok (if append then [0x6F, 0x0A] else []) := by
  have found : keptFiles.findOrMake "out" = .ok (.file [0x6F, 0x0A]) := by cbv
  have opened : SinkBackend.open .absent keptFiles (emptyBatches append).sink = .ok
      (.file ⟨"out", .open (.file [0x6F, 0x0A]) append⟩,
        keptFiles.put "out" (Shelf.open (.file [0x6F, 0x0A]) append).node) := by
    simp only [emptyBatches, SinkBackend.open, FileSink.open, found]
    rfl
  have complaint : (emptyBatches append).pipeline.complaint? =
    some "max_batch_count must be at least 1" := by
    change PipelineConfig.complaint? { indexTarget := "idx", maxBatchCount := 0 } = _
    decide +kernel
  have invalid : (emptyBatches append).pipeline.validate =
      .error (.invalidConfig "max_batch_count must be at least 1") := by
    simp only [PipelineConfig.validate, complaint]
  have refused : Refused .absent keptFiles (emptyBatches append) _ _ := .pipeline rfl opened invalid
  obtain ⟨sink, opened⟩ := SinkBackend.open_file opened
  refine ⟨_, refused.run_eq false, ?_⟩
  rw [FileSink.read_open opened, read_keptFiles]
  rfl

theorem refusal_harmless_unless_overwriting_emptyBatches :
    ∃ trouble files', ((emptyBatches true).run .absent keptFiles false).result = .error trouble ∧
      trouble.message = pipelineRefusal ∧
      ((emptyBatches true).run .absent keptFiles false).files = files' ∧
      (emptyBatches true).run
        (fun request => if request.method = .get then Network.absent request else .response 200 [])
        keptFiles false = .notStarted trouble files' ∧
      files'.read "out" = .ok [0x6F, 0x0A] := by
  obtain ⟨files', run, -⟩ := refused_emptyBatches true
  have failed := congrArg Ending.result run
  have left := congrArg Ending.files run
  obtain ⟨unsent, -, file⟩ :=
    refusal_harmless_unless_overwriting .absent keptFiles false (emptyBatches true) _ files' failed
      (.inr rfl) left
  have kept := (file ⟨"out", true⟩ rfl).1.mpr (.inr ⟨_, read_keptFiles, .inl rfl⟩)
  exact ⟨_, files', failed, rfl, left, unsent _ fun request asks => if_pos asks,
    kept.trans read_keptFiles⟩

/-- The file was to be written anew, so it is empty although nothing is written. -/
theorem not_all_refusals_harmless :
    ¬ ∀ (network : Network) (files : Files) (cancelled : Bool) (settings : Settings)
        (trouble : Trouble),
      (settings.run network files cancelled).result = .error trouble →
      trouble.message = sourceRefusal ∨ trouble.message = pipelineRefusal →
      ∀ config before, settings.sink = .file config → files.read config.fileName = .ok before →
        (settings.run network files cancelled).files.read config.fileName = .ok before := by
  intro all
  obtain ⟨files', run, after⟩ := refused_emptyBatches false
  have kept := all .absent keptFiles false (emptyBatches false) _ (congrArg Ending.result run)
    (.inr rfl) ⟨"out", false⟩ _ rfl read_keptFiles
  rw [run] at kept
  change files'.read "out" = _ at kept
  rw [after] at kept
  exact List.cons_ne_nil _ _ (Except.ok.inj kept).symm

/-- Settings that were loaded are those of a pipeline that takes them. -/
theorem complaint?_of_load {environment : Environment} {fileName : Option String}
    (loaded : load environment files fileName = .ok settings) :
    settings.pipeline.complaint? = none := by
  simp only [load] at loaded
  split at loaded
  · nomatch loaded
  · split at loaded
    · nomatch loaded
    · rename_i decoded _
      cases complaint : decoded.pipeline.complaint? with
      | some _ =>
          simp only [PipelineConfig.validate, complaint] at loaded
          nomatch loaded
      | none =>
          simp only [PipelineConfig.validate, complaint] at loaded
          rw [← Except.ok.inj loaded, complaint]

end Settings

end BulkIngest
