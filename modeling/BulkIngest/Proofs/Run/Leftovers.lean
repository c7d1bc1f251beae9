import BulkIngest.Proofs.Run.Completion
import BulkIngest.Proofs.Run.Load

/-!
What a run leaves behind in its batcher. While documents are pulled a submission is waited for only
when there is no room for another one, that is right after a batch went out, and then nothing is
pending unless an item was too large to go with that batch. So a backend that fails leaves one
document behind at most; only a source that fails, or somebody who stops the run, can leave more,
and never as many as make a batch.
-/

namespace BulkIngest

/-- An item that makes a batcher hand over a batch has filled it, or did not fit and is pending
alone. -/
theorem Batcher.closed_push {batcher : Batcher} (room : batcher.Roomy) {item : BulkItem}
    {batch : Batch} (handed : (batcher.push item).1 = some batch) :
    batch.size = batcher.maxCount ∧ (batcher.push item).2.pending = [] ∨
      batch.size < batcher.maxCount ∧ (batcher.push item).2.pending = [item] := by
  have count := room.count
  simp only [push] at handed ⊢
  split at handed
  · rename_i passed
    right
    simp only [passed, if_true]
    simp only [Bool.and_eq_true, Bool.not_eq_true'] at passed
    simp only [flush, passed.1, Bool.false_eq_true, if_false, Option.some.injEq] at handed ⊢
    exact ⟨handed ▸ count, rfl⟩
  · rename_i passed
    left
    simp only [passed, Bool.false_eq_true, if_false]
    split at handed
    · rename_i full
      have same : (batcher.append item).maxCount = batcher.maxCount := rfl
      have longer : (batcher.append item).pending.length = batcher.pending.length + 1 := by
        simp [append]
      have filled : (batcher.append item).pending.isEmpty = false := by simp [append]
      simp only [flush, filled, Bool.false_eq_true, if_false, Option.some.injEq] at handed
      rw [if_pos full]
      refine ⟨?_, pending_flush _⟩
      rw [← handed, Batch.size]
      change (batcher.append item).pending.length = _
      omega
    · contradiction

namespace RunSummary

/-- The run was ended by its backend: a batch could not be delivered, or its submission broke
down. -/
def EndedByBackend (summary : RunSummary) : Prop :=
  (∃ attempts last, summary.error = some (.retriesExhausted attempts last)) ∨
    ∃ text, summary.error = some (.submissionPanicked text)

end RunSummary

namespace Machine

variable {config : PipelineConfig} {cancelled : Bool} {m m' : Machine} {action : Action}
  {actions : List Action} {settled : List Submission}

theorem exists_halt_of_endedByBackend (fits : ∀ halt ∈ m.halt, halt.Fits)
    (ended : m.summary.EndedByBackend) :
    ∃ halt, m.halt = some halt ∧ halt.unsentKind = .retriesExhausted := by
  cases reason : m.halt with
  | none => simp [summary, RunSummary.EndedByBackend, reason] at ended
  | some halt =>
      refine ⟨halt, rfl, ?_⟩
      have fit := fits halt reason
      cases halt with
      | exhausted e | panicked e => rfl
      | cancelled => simp [summary, RunSummary.EndedByBackend, reason, Halt.verdict] at ended
      | source e =>
          obtain ⟨text, rfl⟩ := fit
          simp [summary, RunSummary.EndedByBackend, reason, Halt.verdict] at ended

/-- The number of documents that were pulled and are in no batch that went out. -/
def heldBack (m : Machine) : Nat := m.unsent + m.batcher.pending.length

/-- All that the last batch left behind is the document that closed it, if it was not full. -/
def LeavesNewcomer (m : Machine) : Prop :=
  ∃ batch, m.journal.dispatched.getLast? = some batch ∧
    m.heldBack = if batch.size = m.batcher.maxCount then 0 else 1

/-- What is held back, above all when a submission may bring a reason to stop. -/
structure HoldsBack (m : Machine) (actions : List Action) : Prop where
  few : m.heldBack < m.batcher.maxCount
  full : m.phase = .pulling → m.hasRoom = false → m.LeavesNewcomer
  lost : .pull .finished ∉ actions → ∀ halt ∈ m.halt, halt.unsentKind = .retriesExhausted →
    m.LeavesNewcomer
  ended : .pull .finished ∈ actions → m.heldBack = 0

theorem holdsBack_start (wide : config.maxInFlight ≠ 0) :
    HoldsBack (.start config cancelled) [] := by
  refine ⟨(Batcher.roomy_empty _ _).count, fun _ full => ?_, fun _ halt mem => by contradiction,
    fun ended => by contradiction⟩
  have positive : config.maxInFlight.toNat ≠ 0 := UInt64.toNat_inj.not.mpr wide
  have closed : ¬0 < config.maxInFlight.toNat := of_decide_eq_false full
  omega

/-- A step that leaves the documents where they are. -/
theorem HoldsBack.carry (h : HoldsBack m actions) (other : action ≠ .pull .finished)
    (held : m'.heldBack = m.heldBack) (maxCount : m'.batcher.maxCount = m.batcher.maxCount)
    (dispatched : m'.journal.dispatched = m.journal.dispatched)
    (full : m'.phase = .pulling → m'.hasRoom = false → m.phase = .pulling ∧ m.hasRoom = false)
    (lost : .pull .finished ∉ actions → ∀ halt ∈ m'.halt, halt.unsentKind = .retriesExhausted →
      m.LeavesNewcomer) : HoldsBack m' (actions ++ [action]) := by
  have same : m.LeavesNewcomer → m'.LeavesNewcomer := by
    rintro ⟨batch, last, left⟩
    exact ⟨batch, dispatched ▸ last, by rw [held, maxCount, left]⟩
  constructor
  · rw [held, maxCount]
    exact h.few
  · intro pulling crowded
    obtain ⟨pulling, crowded⟩ := full pulling crowded
    exact same (h.full pulling crowded)
  · rw [mem_concat_iff other]
    exact fun open_ halt mem kind => same (lost open_ halt mem kind)
  · rw [mem_concat_iff other, held]
    exact h.ended

theorem HoldsBack.document (concluded : Concluded m actions settled) (phased : Phased m settled)
    (bounded : Bounded m) (active : m.unsent = 0) (room : m.canPull = true) (d : Document) :
    HoldsBack ({ m with
      position := m.position + 1
      batcher := (m.batcher.push (m.config.prepare m.position d)).2 }.dispatch?
      (m.batcher.push (m.config.prepare m.position d)).1) (actions ++ [.pull (.document d)]) := by
  have unhalted := phased.pulling (pulling_of_canPull room)
  have free := length_lt_of_canPull room
  have kept := Batcher.keepsBounds_push bounded.room (m.config.prepare m.position d)
  rw [dispatch?_eq]
  refine ⟨?_, fun _ full => ?_, fun _ halt mem => by simp [unhalted] at mem, fun ended => ?_⟩
  · simpa only [heldBack, active, Nat.zero_add] using kept.room.count
  · cases handed : (m.batcher.push (m.config.prepare m.position d)).1 with
    | none =>
        simp only [hasRoom, handed, Option.toList_none, List.map_nil, List.append_nil,
          decide_eq_false_iff_not] at full
        contradiction
    | some batch =>
        refine ⟨batch, by simp, ?_⟩
        simp only [heldBack, active, Nat.zero_add, kept.maxCount]
        obtain ⟨size, pending⟩ | ⟨size, pending⟩ := Batcher.closed_push bounded.room handed
        · rw [pending, if_pos size, List.length_nil]
        · rw [pending, if_neg (Nat.ne_of_lt size), List.length_singleton]
  · rw [mem_concat_iff (by simp)] at ended
    exact (concluded.pulling (pulling_of_canPull room) ended).elim

theorem HoldsBack.receive (h : HoldsBack m actions) (concluded : Concluded m actions settled)
    (bounded : Bounded m) {s : Submission} (found : m.submission? s.sequence = some s)
    (awaits : m.awaitsSubmission = true) :
    HoldsBack (m.receive s) (actions ++ [.absorb s.sequence]) := by
  have out := (submission?_eq_some found).1
  refine h.carry (by simp) rfl rfl rfl ?_ ?_
  · -- the submission that came in has made room
    intro pulling crowded
    have fewer : (m.receive s).inFlight.length < m.inFlight.length :=
      List.length_filter_lt_length_iff_exists.mpr ⟨s, out, by simp⟩
    have bound := bounded.out
    have config : (m.receive s).config = m.config := rfl
    simp only [hasRoom, config, decide_eq_false_iff_not] at crowded
    omega
  · intro open_ halt mem kind
    cases before : m.halt with
    | some first =>
        have same : first = halt := by simpa [Machine.receive, before] using mem
        exact h.lost open_ first before (same ▸ kind)
    | none =>
        -- without a reason to stop and before the end of the source, documents are still pulled
        have pulling : m.phase = .pulling := by
          by_contra idle
          simpa [before] using concluded.stopped idle open_
        refine h.full pulling ?_
        simpa [awaitsSubmission, pulling] using awaits

theorem heldBack_closed (phased : Phased m settled) (draining : m.phase = .draining) :
    m.closed.heldBack = m.heldBack := by
  cases reason : m.halt with
  | none =>
      have pending := phased.drained (by simp [draining]) reason
      simp [heldBack, closed, unsentOutcomes, unsentOutcomesOf, reason, pending]
  | some halt =>
      simp [heldBack, closed, unsentOutcomes, unsentOutcomesOf, reason, Batcher.pending_flush]

theorem HoldsBack.step (h : HoldsBack m actions) (concluded : Concluded m actions settled)
    (phased : Phased m settled) (bounded : Bounded m) (active : m.phase ≠ .finished → m.unsent = 0)
    (step : m.Step action m') : HoldsBack m' (actions ++ [action]) := by
  cases step with
  | cancel => exact h.carry (by simp) rfl rfl rfl (fun pulling crowded => ⟨pulling, crowded⟩) h.lost
  | document d room going =>
      exact .document concluded phased bounded (active (ne_finished_of_canPull room)) room d
  | ended room going =>
      have unsent := active (ne_finished_of_canPull room)
      have nothing : ({ m with phase := .draining, batcher := m.batcher.flush.2 }.dispatch?
          m.batcher.flush.1).heldBack = 0 := by
        simp [dispatch?_eq, heldBack, unsent, Batcher.pending_flush]
      refine ⟨?_, fun pulling => ?_, fun open_ => (open_ (by simp)).elim, fun _ => nothing⟩
      · rw [nothing, dispatch?_eq]
        exact Nat.zero_lt_of_lt (Batcher.keepsBounds_flush bounded.room).room.count
      · rw [dispatch?_eq] at pulling
        contradiction
  | failed reason room going | stop room asked =>
      have unhalted := phased.pulling (pulling_of_canPull room)
      refine h.carry (by simp) rfl rfl rfl (fun pulling => by contradiction) ?_
      intro _ halt mem kind
      have same : halt.unsentKind ≠ .retriesExhausted := by
        simp only [haltWith, unhalted, Option.none_or, Option.mem_some_iff] at mem
        rw [← mem]
        simp [Halt.unsentKind]
      exact (same kind).elim
  | advance found moves =>
      refine h.carry ?_ rfl rfl rfl ?_ h.lost
      · rintro rfl
        cases moves
      · intro pulling crowded
        exact ⟨pulling, by simpa [hasRoom, change] using crowded⟩
  | absorb found awaits ended => exact h.receive concluded bounded found awaits
  | close done =>
      simp only [canClose, Bool.and_eq_true, decide_eq_true_eq] at done
      have maxCount : m.closed.batcher.maxCount = m.batcher.maxCount := by
        cases reason : m.halt.isSome with
        | false => simp [closed, reason]
        | true => simp [closed, reason, (Batcher.keepsBounds_flush bounded.room).maxCount]
      exact h.carry (by simp) (heldBack_closed phased done.1) maxCount rfl
        (fun pulling => by contradiction) h.lost

theorem holdsBack_of_run (wide : config.maxInFlight ≠ 0)
    (run : (Machine.start config cancelled).run? actions = some m) : HoldsBack m actions := by
  refine run_induction (P := fun actions m => HoldsBack m actions) (holdsBack_start wide) ?_ run
  intro actions m action m' run ih step
  obtain ⟨unsent, ledger⟩ := ledger_of_run run
  refine ih.step (concluded_of_run run) (phased_of_run run) (bounded_of_run run) ?_ step
  intro active
  rw [ledger.withheld, ledger.active active, List.length_nil]

/-- A finished run that its backend ended left one document unsent, or none: none just if its source
had come to an end or its last batch was closed by the count bound, that is, was full. Whatever
ended a run, it left fewer documents unsent than make a batch. -/
theorem few_left_behind (config : PipelineConfig) (cancelled : Bool) (actions : List Action)
    (m : Machine) (accepted : config.complaint? = none)
    (run : (Machine.start config cancelled).run? actions = some m)
    (finished : m.isFinished = true) :
    (m.summary.EndedByBackend →
      m.summary.unsent ≤ 1 ∧
        (m.summary.unsent = 0 ↔ .pull .finished ∈ actions ∨
          ∃ batch, m.journal.dispatched.getLast? = some batch ∧
            batch.size = config.maxBatchCount.toNat)) ∧
      m.summary.unsent < config.maxBatchCount.toNat := by
  rw [config.complaint?_eq_none_iff] at accepted
  obtain ⟨-, count, -, inFlight, -⟩ := accepted
  have phased := phased_of_run run
  have holds := holdsBack_of_run inFlight run
  have maxCount : m.batcher.maxCount = config.maxBatchCount.toNat := by
    have positive : config.maxBatchCount.toNat ≠ 0 := UInt64.toNat_inj.not.mpr count
    have bound := (bounded_of_run run).maxCount
    rw [config_of_run run] at bound
    omega
  have held : m.heldBack = m.summary.unsent := by
    rw [heldBack, (phased.finished (of_decide_eq_true finished)).2]
    rfl
  refine ⟨fun ended => ?_, ?_⟩
  · obtain ⟨halt, reason, kind⟩ := exists_halt_of_endedByBackend phased.fits ended
    by_cases dry : .pull .finished ∈ actions
    · have nothing := held ▸ holds.ended dry
      exact ⟨by omega, by simp [nothing, dry]⟩
    · obtain ⟨batch, last, left⟩ := holds.lost dry halt reason kind
      rw [held, maxCount] at left
      refine ⟨by split at left <;> omega, ?_⟩
      simp only [last, Option.some.injEq, exists_eq_left', left, dry, false_or]
      split <;> simp_all
  · rw [← held, ← maxCount]
    exact holds.few

/-- Every item is larger than a batch should be. Two batches are out when the second one breaks
down, and the third document, which closed it, is pending. -/
def strandedRun : List Action :=
  [.pull (.document []), .pull (.document []), .send 1, .pull (.document []), .send 2,
    .answer 2 (.panicked none), .absorb 2, .answer 1 (.statuses [.accepted none]),
    .absorb 1, .close]

def strandedConfig : PipelineConfig := { wreckedConfig with maxBatchBytes := 1 }

theorem strandedRun_runs :
    ((Machine.start strandedConfig false).run? strandedRun).any (fun m => m.isFinished &&
      decide (m.summary.error = some (.submissionPanicked "panic with a non-string payload")) &&
      decide (m.journal.dispatched.map (·.size) = [1, 1])) = true := by
  decide +kernel

theorem few_left_behind_strandedRun :
    ∃ m, strandedConfig.complaint? = none ∧
      (Machine.start strandedConfig false).run? strandedRun = some m ∧ m.isFinished = true ∧
      m.summary.EndedByBackend ∧ m.summary.unsent = 1 := by
  have accepted : strandedConfig.complaint? = none := by decide +kernel
  obtain ⟨m, run, seen⟩ := (Option.any_eq_true _ _).mp strandedRun_runs
  simp only [Bool.and_eq_true, decide_eq_true_eq] at seen
  obtain ⟨⟨finished, error⟩, sizes⟩ := seen
  have ended : m.summary.EndedByBackend := .inr ⟨_, error⟩
  obtain ⟨one, zero_iff⟩ :=
    (few_left_behind strandedConfig false strandedRun m accepted run finished).1 ended
  have left : m.summary.unsent ≠ 0 := by
    intro zero
    obtain dry | ⟨batch, last, full⟩ := zero_iff.mp zero
    · simp [strandedRun] at dry
    · have size := congrArg List.getLast? sizes
      rw [List.getLast?_map, last, Option.map_some, full] at size
      exact absurd size (by decide)
  exact ⟨m, accepted, run, finished, ended, by omega⟩

end Machine

end BulkIngest
