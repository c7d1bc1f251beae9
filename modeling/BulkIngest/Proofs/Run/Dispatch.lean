import BulkIngest.Proofs.Run.Batches

/-!
What a run sends is settled by its source and by the settings that make batches of documents. The
backend, the clock, a cancellation and the number of submissions that may be out decide only how far
the run gets in that list, so of two runs over one source the one that sends less sends the
beginning of what the other one sends.
-/

namespace BulkIngest

def Action.pull? : Action → Option Pull
  | .pull brought => some brought
  | _ => none

/-- What the source brought, in order. -/
def pulls (actions : List Action) : List Pull := actions.filterMap Action.pull?

/-- Whether what was pulled came from a source that has `docs` and then `last`. -/
def PulledFrom (docs : List Document) (last : Pull) (actions : List Action) : Prop :=
  pulls actions <+: docs.map .document ++ [last]

theorem documents_eq (actions : List Action) :
    documents actions = (pulls actions).filterMap Pull.document? := by
  rw [pulls, List.filterMap_filterMap, documents]
  congr 1
  funext action
  cases action with
  | pull brought => cases brought <;> rfl
  | _ => rfl

namespace PulledFrom

variable {docs : List Document} {last : Pull} {actions : List Action}

theorem documents_prefix (h : PulledFrom docs last actions) (closes : last.document? = none) :
    documents actions <+: docs := by
  have kept := List.IsPrefix.filterMap Pull.document? h
  rwa [← documents_eq, List.filterMap_append, Pull.filterMap_document?, List.filterMap_cons, closes,
    List.filterMap_nil, List.append_nil] at kept

theorem documents_eq_of_finished (h : PulledFrom docs last actions)
    (closes : last.document? = none) (ended : .pull .finished ∈ actions) :
    documents actions = docs := by
  have finished : Pull.finished ∈ pulls actions := List.mem_filterMap.mpr ⟨_, ended, rfl⟩
  rcases List.prefix_concat_iff.mp h with all | some
  · rw [documents_eq, all, List.filterMap_append, Pull.filterMap_document?,
      List.filterMap_cons, closes, List.filterMap_nil, List.append_nil]
  · obtain ⟨d, -, impossible⟩ := List.mem_map.mp (some.subset finished)
    contradiction

end PulledFrom

/-- Settings that make the same batches of the same documents. They may differ in how many
submissions may be out, in when a request is given up, and in how often and after what time it is
made again. -/
structure PipelineConfig.CutsAlike (config config' : PipelineConfig) : Prop where
  indexTarget : config.indexTarget = config'.indexTarget
  action : config.action = config'.action
  keyField : config.keyField = config'.keyField
  allowedFields : config.allowedFields = config'.allowedFields
  maxBatchCount : config.maxBatchCount = config'.maxBatchCount
  maxBatchBytes : config.maxBatchBytes = config'.maxBatchBytes

namespace PipelineConfig.CutsAlike

variable {config config' : PipelineConfig}

theorem prepare_eq (h : CutsAlike config config') : config.prepare = config'.prepare := by
  funext position d
  simp only [prepare, keyOf, indexOf, projection, h.indexTarget, h.action, h.keyField,
    h.allowedFields]

theorem batches_eq (h : CutsAlike config config') (docs : List Document) :
    config.batches docs = config'.batches docs := by
  simp only [batches, items, h.prepare_eq, h.maxBatchCount, h.maxBatchBytes]

end PipelineConfig.CutsAlike

namespace Machine

variable {config : PipelineConfig} {cancelled : Bool} {m : Machine} {actions : List Action}
  {docs : List Document} {last : Pull}

theorem dispatched_of_finished (run : (Machine.start config cancelled).run? actions = some m)
    (closes : last.document? = none) (source : PulledFrom docs last actions)
    (ended : .pull .finished ∈ actions) : m.journal.dispatched = config.batches docs := by
  rw [(cutting_of_run run).ended ended, config_of_run run,
    source.documents_eq_of_finished closes ended]

theorem dispatched_prefix (run : (Machine.start config cancelled).run? actions = some m)
    (closes : last.document? = none) (source : PulledFrom docs last actions) :
    m.journal.dispatched <+: config.batches docs := by
  by_cases ended : .pull .finished ∈ actions
  · exact ⟨[], (List.append_nil _).trans (dispatched_of_finished run closes source ended)⟩
  · obtain ⟨more, pulled⟩ := source.documents_prefix closes
    have ahead := (cutting_of_run run).ahead ended more
    rwa [pulled, config_of_run run] at ahead

/-- The batches that go out are the first ones of those that the documents of the source make, as
many as the summary says, and all of them if the run sees the end of the source. So whatever else
differs, of two runs over one source one sends the beginning of what the other one sends. -/
theorem dispatch_settled_beforehand (config : PipelineConfig) (cancelled : Bool)
    (docs : List Document) (last : Pull) (closes : last.document? = none) (actions : List Action)
    (m : Machine) (source : PulledFrom docs last actions)
    (run : (Machine.start config cancelled).run? actions = some m) :
    m.journal.dispatched <+: config.batches docs ∧
      m.journal.dispatched.map (·.sequence) = List.range' 1 m.summary.batches ∧
      m.journal.dispatched.length = m.summary.batches ∧
      (.pull .finished ∈ actions → m.journal.dispatched = config.batches docs) ∧
      ∀ (config' : PipelineConfig) (cancelled' : Bool) (actions' : List Action) (m' : Machine),
        config.CutsAlike config' → PulledFrom docs last actions' →
        (Machine.start config' cancelled').run? actions' = some m' →
        m.journal.dispatched <+: m'.journal.dispatched ∨
          m'.journal.dispatched <+: m.journal.dispatched := by
  have custody := custody_of_run run
  have sent := dispatched_prefix run closes source
  have count : m.journal.dispatched.length = m.summary.batches := custody.batches.symm
  refine ⟨sent, ?_, count, dispatched_of_finished run closes source, ?_⟩
  · rw [← count]
    exact custody.numbered
  · intro config' cancelled' actions' m' alike source' run'
    have sent' := dispatched_prefix run' closes source'
    rw [← alike.batches_eq docs] at sent'
    exact List.prefix_or_prefix_of_prefix sent sent'

/-- The same documents one batch at a time, to the end. -/
def patientRun : List Action :=
  [.pull (.document []), .pull (.document [("_id", .string "b")]), .send 1,
    .answer 1 (.statuses [.accepted none, .accepted none]), .absorb 1, .pull (.document []),
    .pull .finished, .send 2, .answer 2 (.statuses [.accepted none]), .absorb 2, .close]

def patientConfig : PipelineConfig := { wreckedConfig with maxInFlight := 1, maxRetries := 0 }

theorem patientRun_runs :
    ((Machine.start wreckedConfig false).run? wreckedRun).isSome = true ∧
      ((Machine.start patientConfig false).run? patientRun).isSome = true := by
  decide +kernel

theorem dispatch_settled_beforehand_patientRun :
    ∃ m m', (Machine.start wreckedConfig false).run? wreckedRun = some m ∧
      (Machine.start patientConfig false).run? patientRun = some m' ∧
      m.journal.dispatched <+: wreckedConfig.batches (documents patientRun) ∧
      (m.journal.dispatched <+: m'.journal.dispatched ∨
        m'.journal.dispatched <+: m.journal.dispatched) := by
  obtain ⟨wrecked, patient⟩ := patientRun_runs
  obtain ⟨m, run⟩ := Option.isSome_iff_exists.mp wrecked
  obtain ⟨m', run'⟩ := Option.isSome_iff_exists.mp patient
  have source : PulledFrom (documents patientRun) .finished wreckedRun := ⟨[.finished], rfl⟩
  have source' : PulledFrom (documents patientRun) .finished patientRun := ⟨[], rfl⟩
  have alike : wreckedConfig.CutsAlike patientConfig := ⟨rfl, rfl, rfl, rfl, rfl, rfl⟩
  have settled := dispatch_settled_beforehand wreckedConfig false (documents patientRun) .finished
    rfl wreckedRun m source run
  exact ⟨m, m', run, run', settled.1,
    settled.2.2.2.2 patientConfig false patientRun m' alike source' run'⟩

end Machine

end BulkIngest
