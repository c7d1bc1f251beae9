import BulkIngest.Proofs.Run.Conservation
import Mathlib.Algebra.Group.Action.Defs
import Mathlib.Algebra.Order.BigOperators.Group.List
import Mathlib.Algebra.Order.Ring.Nat

/-!
The calls of a run. Every attempt of a submission is one call, so the calls are those of the
submissions, numbered from one for each batch. The summary knows their number from what the
submissions report; one that broke down reports nothing, and the retries of its batch are missing
there.
-/

namespace BulkIngest

namespace Submission

variable {config : PipelineConfig} {policy : RetryPolicy} {stopped : Bool} {s s' : Submission}
  {action : Action} {last : Option (Option Answer)}

/-- The calls for the batch so far. -/
def calls (s : Submission) : List SinkCall :=
  (List.range' 1 s.attempts).map (SinkCall.mk s.sequence)

/-- The retries that are in no report. -/
def unreported (s : Submission) : Nat :=
  match s.stage with
  | .panicked _ => s.attempts - 1
  | _ => 0

/-- Only a request begins an attempt. -/
theorem Moves.calls_eq (moves : Moves config stopped s action s') :
    s'.calls = s.calls ++ Machine.callsOf s' action := by
  have same : s'.attempts = s.attempts → s'.calls = s.calls := by
    intro same
    rw [calls, calls, same, moves.sequence_eq]
  cases moves with
  | send due =>
      change (List.range' 1 (s.attempts + 1)).map (SinkCall.mk s.sequence) = _
      rw [List.range'_concat, List.map_append, Nat.one_mul, Nat.add_comm 1]
      rfl
  | answer a wire | timeOut wire =>
      exact (same (attempts_conclude _ _ _ _)).trans (List.append_nil _).symm
  | wake _ _ | abandon _ _ _ => exact (same rfl).trans (List.append_nil _).symm

/-- The attempts of a batch are the first one, those that are reported as retries and those that are
not. -/
theorem Stands.attempts_eq (h : Stands policy stopped s last) (ended : s.isOver = true) :
    s.attempts = 1 + s.retries + s.unreported := by
  cases h with
  | queued fresh =>
      rw [fresh] at ended
      contradiction
  | sending stage begun budget => simp [isOver, stage] at ended
  | resting e stage begun budget read again =>
      rcases stage with stage | stage <;> simp [isOver, stage] at ended
  | delivered _ stage begun _ | exhausted _ stage begun _ _ | abandoned _ stage begun _ _ _ _
  | panicked _ stage begun _ =>
      simp only [retries, unreported, stage]
      omega

theorem Stands.unreported_eq_zero_iff (h : Stands policy stopped s last)
    (ended : s.isOver = true) :
    s.unreported = 0 ↔ ∀ message, s.stage = .panicked message → s.attempts = 1 := by
  have attempts := h.attempts_eq ended
  cases stage : s.stage with
  | panicked message =>
      have unretried : s.retries = 0 := by simp only [retries, stage]
      simp only [Stage.panicked.injEq, forall_eq']
      omega
  | _ => simp [unreported, stage]

end Submission

namespace Machine

variable {config : PipelineConfig} {cancelled : Bool} {m m' : Machine} {action : Action}
  {actions : List Action} {settled : List Submission}

/-- The calls are those of the submissions. -/
def Called (m : Machine) (settled : List Submission) : Prop :=
  List.Perm m.journal.calls ((settled ++ m.inFlight).flatMap (·.calls))

theorem called_start : Called (.start config cancelled) [] := .nil

theorem Called.dispatch (h : Called m settled) (batch : Option Batch) (batcher : Batcher)
    (phase : Phase) (position : Nat) :
    Called ({ m with phase, position, batcher }.dispatch? batch) settled := by
  have fresh : (batch.toList.map Submission.of).flatMap (·.calls) = [] := by
    cases batch <;> rfl
  rw [dispatch?_eq, Called, ← List.append_assoc, List.flatMap_append, fresh, List.append_nil]
  exact h

theorem Called.change (h : Called m settled) (custody : Custody m settled) {s s' : Submission}
    (found : m.submission? s.sequence = some s)
    (moves : s.Moves m.config m.retriesStopped action s') :
    Called (m.change action s') settled := by
  have mem := (submission?_eq_some found).1
  let others := (m.inFlight.filter (·.sequence ≠ s.sequence)).flatMap (·.calls)
  have before : List.Perm (m.inFlight.flatMap (·.calls)) (s.calls ++ others) :=
    (Submission.perm_cons_filter custody.distinct_inFlight mem).flatMap_right (·.calls)
  have after : List.Perm ((m.change action s').inFlight.flatMap (·.calls)) (s'.calls ++ others) :=
    (Submission.perm_cons_replace custody.distinct_inFlight mem
      moves.sequence_eq).flatMap_right (·.calls)
  have moved : List.Perm (m.inFlight.flatMap (·.calls) ++ callsOf s' action)
      ((m.change action s').inFlight.flatMap (·.calls)) := by
    refine List.Perm.trans ?_ after.symm
    rw [moves.calls_eq, List.append_assoc]
    refine (before.append_right _).trans ?_
    rw [List.append_assoc]
    exact List.perm_append_comm.append_left s.calls
  rw [Called, List.flatMap_append] at h ⊢
  refine (h.append_right (callsOf s' action)).trans ?_
  rw [List.append_assoc]
  exact moved.append_left _

theorem Called.receive (h : Called m settled) (custody : Custody m settled) {s : Submission}
    (found : m.submission? s.sequence = some s) : Called (m.receive s) (settled ++ [s]) := by
  have mem := (submission?_eq_some found).1
  have moved := (Submission.perm_cons_filter custody.distinct_inFlight mem).append_left settled
  refine List.Perm.trans h ?_
  rw [List.append_assoc, List.singleton_append]
  exact moved.flatMap_right _

theorem Called.step (h : Called m settled) (custody : Custody m settled)
    (step : m.Step action m') : Called m' (settled ++ (m.absorbedBy action).toList) := by
  cases step with
  | cancel | failed _ _ _ | stop _ _ | close _ =>
      rw [append_absorbedBy rfl]
      exact h
  | document d room going =>
      rw [append_absorbedBy rfl]
      exact h.dispatch _ _ m.phase _
  | ended room going =>
      rw [append_absorbedBy rfl]
      exact h.dispatch _ _ .draining m.position
  | advance found moves =>
      rw [append_absorbedBy (absorbedBy_of_moves moves)]
      exact h.change custody found moves
  | absorb found awaits ended =>
      simpa only [absorbedBy, found, Option.toList_some] using h.receive custody found

/-- At each moment of a run the calls are the attempts of its submissions, each once. -/
theorem called_of_run (run : (Machine.start config cancelled).run? actions = some m) :
    Called m ((Machine.start config cancelled).absorbed actions) := by
  refine run_induction
    (P := fun actions m => Called m ((Machine.start config cancelled).absorbed actions))
    called_start ?_ run
  intro actions m action m' run ih step
  rw [absorbed_concat action run]
  exact ih.step (custody_of_run run) step

theorem sum_attempts (answered : Answered m actions settled) :
    (settled.map (·.attempts)).sum = settled.length + (settled.map (·.retries)).sum +
      (settled.map (·.unreported)).sum := by
  have each : ∀ s ∈ settled, s.attempts = 1 + s.retries + s.unreported := fun s mem =>
    (answered.stands s (List.mem_append_left _ mem)).attempts_eq (answered.ended s mem)
  rw [List.map_congr_left each, List.sum_map_add, List.sum_map_add, List.map_const',
    List.sum_replicate, smul_eq_mul, Nat.mul_one]

theorem sum_unreported_eq_zero_iff (answered : Answered m actions settled) :
    (settled.map (·.unreported)).sum = 0 ↔
      ∀ s ∈ settled, ∀ message, s.stage = .panicked message → s.attempts = 1 := by
  have each : ∀ s ∈ settled, (s.unreported = 0 ↔
      ∀ message, s.stage = .panicked message → s.attempts = 1) := fun s mem =>
    (answered.stands s (List.mem_append_left _ mem)).unreported_eq_zero_iff (answered.ended s mem)
  rw [List.sum_eq_zero_iff, List.forall_mem_map]
  exact forall₂_congr each

/-- The calls of a run that has finished are the attempts of its submissions. Their number is that
of the batches and of the retries in the summary and, besides, of the attempts after the first one
for batches on which the sink broke down; so the summary accounts for all calls if and only if the
sink never broke down on a retry. -/
theorem calls_accounted_unless_broken (config : PipelineConfig) (cancelled : Bool)
    (actions : List Action) (m : Machine)
    (run : (Machine.start config cancelled).run? actions = some m)
    (finished : m.isFinished = true) :
    List.Perm m.journal.calls
      (((Machine.start config cancelled).absorbed actions).flatMap (·.calls)) ∧
    m.journal.calls.length = m.summary.batches + m.summary.retries +
      (((Machine.start config cancelled).absorbed actions).map (·.unreported)).sum ∧
    (m.summary.batches + m.summary.retries = m.journal.calls.length ↔
      ∀ s ∈ (Machine.start config cancelled).absorbed actions, ∀ message,
        s.stage = .panicked message → s.attempts = 1) := by
  have answered := answered_of_run run
  have custody := custody_of_run run
  have called := called_of_run run
  have held := custody.held
  obtain ⟨unsent, ledger⟩ := ledger_of_run run
  obtain ⟨out, -⟩ := (phased_of_run run).finished (of_decide_eq_true finished)
  rw [Called, out, List.append_nil] at called
  rw [out, List.append_nil] at held
  have batches : m.summary.batches =
    ((Machine.start config cancelled).absorbed actions).length := by
    rw [← List.length_map (·.batch), held.length_eq]
    exact custody.batches
  have attempts : ∀ s : Submission, s.calls.length = s.attempts := fun s => by
    rw [Submission.calls, List.length_map, List.length_range']
  have count : m.journal.calls.length = m.summary.batches + m.summary.retries +
      (((Machine.start config cancelled).absorbed actions).map (·.unreported)).sum := by
    rw [called.length_eq, List.length_flatMap, List.map_congr_left fun s _ => attempts s,
      sum_attempts answered, batches, ← ledger.retried]
    rfl
  refine ⟨called, count, ?_⟩
  rw [← sum_unreported_eq_zero_iff answered, count]
  omega

/-- The first request for the only batch fails, and the sink breaks down on the second one. -/
def brokenRetryRun : List Action :=
  [.pull (.document [("id", Json.Value.ofNat 1)]), .pull .finished, .send 1,
    .answer 1 (.failed (.connection "connection reset by peer")), .wake 1, .send 1,
    .answer 1 (.panicked (some "boom")), .absorb 1, .close]

def brokenRetryConfig : PipelineConfig :=
  { indexTarget := "idx", maxBatchCount := 2, baseDelayMs := 1000, maxDelayMs := 1000 }

theorem brokenRetryRun_ends :
    ((Machine.start brokenRetryConfig false).run? brokenRetryRun).any
      (fun m => m.isFinished && m.summary.batches = 1 && m.summary.retries = 0) = true := by
  decide +kernel

theorem calls_accounted_unless_broken_brokenRetryRun :
    ∃ m, (Machine.start brokenRetryConfig false).run? brokenRetryRun = some m ∧
      m.isFinished = true ∧ m.journal.calls.length = 2 ∧
      m.summary.batches + m.summary.retries = 1 := by
  obtain ⟨m, run, ends⟩ := (Option.any_eq_true _ _).mp brokenRetryRun_ends
  simp only [Bool.and_eq_true, decide_eq_true_eq] at ends
  obtain ⟨⟨finished, batches⟩, retries⟩ := ends
  have unreported : (((Machine.start brokenRetryConfig false).absorbed brokenRetryRun).map
      (·.unreported)).sum = 1 := by
    decide +kernel
  have counted := (calls_accounted_unless_broken brokenRetryConfig false brokenRetryRun m run
    finished).2.1
  rw [batches, retries, unreported] at counted
  exact ⟨m, run, finished, counted, by rw [batches, retries]⟩

theorem not_all_calls_accounted :
    ¬∀ (config : PipelineConfig) (cancelled : Bool) (actions : List Action) (m : Machine),
      config.complaint? = none → (Machine.start config cancelled).run? actions = some m →
      m.isFinished = true → m.summary.batches + m.summary.retries = m.journal.calls.length := by
  intro all
  obtain ⟨m, run, ends⟩ := (Option.any_eq_true _ _).mp brokenRetryRun_ends
  simp only [Bool.and_eq_true, decide_eq_true_eq] at ends
  obtain ⟨⟨finished, batches⟩, retries⟩ := ends
  have accepted : brokenRetryConfig.complaint? = none := by decide +kernel
  have counted := all brokenRetryConfig false brokenRetryRun m accepted run finished
  have two : ((Machine.start brokenRetryConfig false).run? brokenRetryRun).map
      (·.journal.calls.length) = some 2 := by
    decide +kernel
  rw [run, Option.map_some, Option.some.injEq] at two
  rw [batches, retries, two] at counted
  contradiction

end Machine

end BulkIngest
