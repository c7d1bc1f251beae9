import BulkIngest.Proofs.Retry.Labels
import BulkIngest.Proofs.Run.Conservation
import Mathlib.Data.List.Pairwise

/-!
Labels tell what happened. The outcome of a document that went out says what the last call for its
batch came to, and that of a document that never went out says why the run stopped. Documents are
told apart by their names, so no outcome of a batch can stand for a document of another one.
-/

namespace BulkIngest

theorem Halt.isUnsent_unsentKind (halt : Halt) : halt.unsentKind.isUnsent = true := by
  cases halt <;> rfl

/-- The label that a summary announces for documents that were never sent. -/
def RunSummary.unsentKind? (summary : RunSummary) : Option FailureKind :=
  match summary.terminalState, summary.error with
  | .cancelled, _ => some .cancelled
  | _, some (.source _) => some .source
  | _, some (.retriesExhausted _ _) | _, some (.submissionPanicked _) => some .retriesExhausted
  | _, _ => none

/-- A document has one place in one batch. -/
theorem Batch.eq_of_refs {batches : List Batch} (distinct : (batches.flatMap (·.refs)).Nodup)
    {batch batch' : Batch} (mem : batch ∈ batches) (mem' : batch' ∈ batches) {i j : Nat}
    {ref : DocumentRef} (here : batch.refs[i]? = some ref) (there : batch'.refs[j]? = some ref) :
    batch = batch' ∧ i = j := by
  obtain ⟨within, across⟩ := List.nodup_flatMap.mp distinct
  have same : batch = batch' := by
    by_contra other
    have symm : Std.Symm (Function.onFun List.Disjoint fun batch : Batch => batch.refs) :=
      ⟨fun _ _ apart => List.disjoint_symm apart⟩
    exact across.forall mem mem' other (List.mem_of_getElem? here) (List.mem_of_getElem? there)
  subst same
  obtain ⟨bound, here⟩ := List.getElem?_eq_some_iff.mp here
  obtain ⟨bound', there⟩ := List.getElem?_eq_some_iff.mp there
  exact ⟨rfl, ((within batch mem).getElem_inj_iff).mp (here.trans there.symm)⟩

namespace Machine

variable {config : PipelineConfig} {cancelled : Bool} {m : Machine} {actions : List Action}
  {settled : List Submission}

/-- Whether a call carried the document. -/
def Sent (m : Machine) (ref : DocumentRef) : Prop :=
  ∃ call ∈ m.journal.calls, ∃ batch ∈ m.journal.dispatched,
    batch.sequence = call.sequence ∧ ref ∈ batch.refs

/-- The label of an outcome is right. -/
structure Labelled (m : Machine) (actions : List Action) (outcome : Outcome) : Prop where
  unsent : outcome.isUnsent = true ↔ ¬m.Sent outcome.ref
  reason : outcome.isUnsent = true → outcome.kind? = m.summary.unsentKind?
  sent : ∀ batch ∈ m.journal.dispatched, ∀ i, batch.refs[i]? = some outcome.ref →
    ∃ a, lastCall? m.config batch.sequence actions = some (some a) ∧
      (outcome.kind? = none ↔ batch.Accepts a i) ∧
      (outcome.kind? = some .documentRejected ↔ batch.Rejects a i) ∧
      (outcome.kind? = some .transport ↔ batch.Fails a)

theorem summary_unsentKind? {halt : Halt} (reason : m.halt = some halt) (fits : halt.Fits) :
    m.summary.unsentKind? = some halt.unsentKind := by
  cases halt with
  | cancelled => simp [summary, RunSummary.unsentKind?, reason, Halt.verdict, Halt.unsentKind]
  | exhausted e =>
      obtain ⟨attempts, last, rfl⟩ := fits
      simp [summary, RunSummary.unsentKind?, reason, Halt.verdict, Halt.unsentKind]
  | source e =>
      obtain ⟨text, rfl⟩ := fits
      simp [summary, RunSummary.unsentKind?, reason, Halt.verdict, Halt.unsentKind]
  | panicked e =>
      obtain ⟨text, rfl⟩ := fits
      simp [summary, RunSummary.unsentKind?, reason, Halt.verdict, Halt.unsentKind]

/-- The outcome that a submission brings tells the last call for its batch. -/
theorem told_of_settled (answered : Answered m actions settled) {outcome : Outcome}
    (mem : outcome ∈ settled.flatMap (·.outcomes)) :
    ∃ s ∈ settled, ∃ a i, lastCall? m.config s.sequence actions = some (some a) ∧
      s.batch.refs[i]? = some outcome.ref ∧ s.batch.Told a i outcome := by
  obtain ⟨s, here, mem⟩ := List.mem_flatMap.mp mem
  obtain ⟨a, last, outcomes⟩ :=
    (answered.stands s (List.mem_append_left _ here)).outcomes_eq (answered.ended s here)
  rw [outcomes] at mem
  obtain ⟨i, at_⟩ := List.mem_iff_getElem?.mp mem
  refine ⟨s, here, a, i, last, ?_, Batch.told_outcomesOf at_⟩
  rw [← s.batch.refs_outcomesOf a, List.getElem?_map, at_, Option.map_some]

theorem labelled_of_settled (custody : Custody m settled) (answered : Answered m actions settled)
    (distinct : (m.journal.dispatched.flatMap (·.refs)).Nodup) {outcome : Outcome}
    (mem : outcome ∈ settled.flatMap (·.outcomes)) : Labelled m actions outcome := by
  obtain ⟨s, here, a, i, last, ref, told⟩ := told_of_settled answered mem
  have out := custody.mem_dispatched (List.mem_append_left _ here)
  obtain ⟨call, called, sequence⟩ := answered.called s.sequence (by simp [last])
  refine ⟨?_, fun unsent => by simp [told.sent] at unsent, ?_⟩
  · simp only [told.sent, Bool.false_eq_true, false_iff, not_not]
    exact ⟨call, called, s.batch, out, sequence.symm, List.mem_of_getElem? ref⟩
  · intro batch dispatched j place
    obtain ⟨rfl, rfl⟩ := Batch.eq_of_refs distinct out dispatched ref place
    exact ⟨a, last, told.accepted, told.rejected, told.transport⟩

theorem countP_unsentOutcomesOf {halt : Option Halt} {items : List BulkItem}
    (reason : items ≠ [] → halt.isSome = true) :
    (unsentOutcomesOf halt items).countP (·.isUnsent) = items.length := by
  have all : ∀ outcome ∈ unsentOutcomesOf halt items, outcome.isUnsent = true := by
    intro outcome mem
    cases halt with
    | none => simp [unsentOutcomesOf] at mem
    | some halt =>
        obtain ⟨ref, -, rfl⟩ := List.mem_map.mp mem
        exact halt.isUnsent_unsentKind
  rw [List.countP_eq_length.mpr all]
  simpa using congrArg List.length (refs_unsentOutcomesOf reason)

theorem labelled_of_unsent {unsent : List BulkItem} (fits : ∀ halt ∈ m.halt, halt.Fits)
    (apart : ∀ item ∈ unsent, ∀ batch ∈ m.journal.dispatched, item.ref ∉ batch.refs)
    {outcome : Outcome} (mem : outcome ∈ unsentOutcomesOf m.halt unsent) :
    Labelled m actions outcome := by
  cases reason : m.halt with
  | none => simp [unsentOutcomesOf, reason] at mem
  | some halt =>
      simp only [unsentOutcomesOf, reason, List.map_map, List.mem_map, Function.comp_apply] at mem
      obtain ⟨item, withheld, rfl⟩ := mem
      have apart : ∀ batch ∈ m.journal.dispatched, item.ref ∉ batch.refs := apart item withheld
      refine ⟨?_, fun _ => ?_, ?_⟩
      · have unsent : (Outcome.failed halt.unsentKind "never sent, the run stopped first"
            item.ref).isUnsent = true := halt.isUnsent_unsentKind
        simp only [unsent, true_iff]
        rintro ⟨call, -, batch, dispatched, -, here⟩
        exact apart batch dispatched here
      · exact (summary_unsentKind? reason (fits halt reason)).symm
      · intro batch dispatched i place
        exact (apart batch dispatched (List.mem_of_getElem? place)).elim

/-- Each document that was pulled has exactly one outcome in the end, and its label is right: an
outcome of a document that never went out carries the one label that the summary announces, these
are counted as unsent, and that of any other document tells the last call for its batch. -/
theorem outcomes_labelled (config : PipelineConfig) (cancelled : Bool) (actions : List Action)
    (m : Machine) (run : (Machine.start config cancelled).run? actions = some m)
    (finished : m.isFinished = true) :
    (∀ item ∈ config.items (documents actions),
      ∃! outcome, outcome ∈ m.journal.recorded ∧ outcome.ref = item.ref) ∧
    (∀ outcome ∈ m.journal.recorded, Labelled m actions outcome) ∧
    m.summary.unsent = m.journal.recorded.countP (·.isUnsent) := by
  obtain ⟨unsent, ledger⟩ := ledger_of_run run
  have custody := custody_of_run run
  have answered := answered_of_run run
  have phased := phased_of_run run
  have accounted := accounted_of_finished run finished
  have names : (m.journal.dispatched.flatMap (·.refs) ++ unsent.map (·.ref)).Nodup := by
    have pending := (phased.finished (of_decide_eq_true finished)).2
    have items := congrArg (List.map (·.ref)) ledger.items
    rw [pending, List.append_nil, List.map_append, List.map_flatMap, config_of_run run] at items
    exact items ▸ config.nodup_refs _
  obtain ⟨distinct, -, apart⟩ := List.nodup_append.mp names
  have withheld : ∀ item ∈ unsent, ∀ batch ∈ m.journal.dispatched, item.ref ∉ batch.refs := by
    intro item mem batch dispatched here
    exact apart _ (List.mem_flatMap_of_mem dispatched here) _ (List.mem_map_of_mem mem) rfl
  refine ⟨?_, ?_, ?_⟩
  · intro item mem
    have own : item.ref ∈ m.accounted := accounted.mem_iff.mpr (List.mem_map_of_mem mem)
    obtain ⟨outcome, recorded, ref⟩ := List.mem_map.mp own
    refine ⟨outcome, ⟨recorded, ref⟩, fun other found => ?_⟩
    have single : m.accounted.Nodup := accounted.nodup_iff.mpr (config.nodup_refs _)
    exact List.inj_on_of_nodup_map single found.1 recorded (found.2.trans ref.symm)
  · intro outcome mem
    rw [ledger.recorded] at mem
    rcases List.mem_append.mp mem with mem | mem
    · exact labelled_of_settled custody answered distinct mem
    · exact labelled_of_unsent phased.fits withheld mem
  · have sent : (((Machine.start config cancelled).absorbed actions).flatMap
        (·.outcomes)).countP (·.isUnsent) = 0 := by
      rw [List.countP_eq_zero]
      intro outcome mem
      obtain ⟨s, -, a, i, -, -, told⟩ := told_of_settled answered mem
      simp [told.sent]
    change m.unsent = _
    rw [ledger.withheld, ledger.recorded, List.countP_append, sent, Nat.zero_add,
      countP_unsentOutcomesOf ledger.reason]

theorem outcomes_labelled_wreckedRun :
    ∃ m, (Machine.start wreckedConfig false).run? wreckedRun = some m ∧ m.isFinished = true ∧
      (∀ item ∈ wreckedConfig.items (documents wreckedRun),
        ∃! outcome, outcome ∈ m.journal.recorded ∧ outcome.ref = item.ref) ∧
      (∀ outcome ∈ m.journal.recorded, Labelled m wreckedRun outcome) ∧
      m.summary.unsent = m.journal.recorded.countP (·.isUnsent) := by
  obtain ⟨m, run, finished⟩ := (Option.any_eq_true _ _).mp isFinished_wreckedRun
  exact ⟨m, run, finished, outcomes_labelled wreckedConfig false wreckedRun m run finished⟩

end Machine

end BulkIngest
