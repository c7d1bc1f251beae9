import BulkIngest.Proofs.Run.Phases
import Mathlib.Algebra.Ring.Nat

/-!
Runs come to an end. Each step uses up some of the work that is left: a batch has a fixed number of
attempts and an attempt has three steps at most. Only a document that is pulled brings new work. And
as long as a run has not finished, there is something that can happen next.
-/

namespace BulkIngest

def Action.isCancel : Action → Bool
  | .cancel => true
  | _ => false

/-- How much may still happen apart from what is out: a last batch, and the steps that close a
run. -/
def Phase.work (rounds : Nat) : Phase → Nat
  | .pulling => 3 * rounds + 2
  | .draining => 1
  | .finished => 0

namespace Machine

variable {config : PipelineConfig} {cancelled : Bool} {m m' : Machine} {action : Action}
  {actions : List Action} {settled : List Submission}

/-- How often a batch is attempted at most. -/
def rounds (m : Machine) : Nat := m.config.maxRetries.toNat + 1

/-- How much may still happen if no document is pulled any more. -/
def work (m : Machine) : Nat :=
  m.phase.work m.rounds + (m.inFlight.map (·.fuel m.rounds)).sum

/-- The steps that an action makes room for. -/
def grant (rounds : Nat) : Action → Nat
  | .cancel => 1
  | .pull (.document _) => 3 * rounds + 1
  | _ => 0

theorem work_dispatch (m : Machine) (result : Option Batch × Batcher) (phase : Phase)
    (position : Nat) :
    ({ m with phase, position, batcher := result.2 }.dispatch? result.1).work ≤
      phase.work m.rounds + (m.inFlight.map (·.fuel m.rounds)).sum + 3 * m.rounds := by
  rw [dispatch?_eq]
  cases result.1 with
  | none => simp [work, rounds]
  | some batch =>
      simp only [work, rounds, Option.toList_some, List.map_append, List.map_singleton,
        List.sum_append, List.sum_singleton, Submission.fuel, Submission.of]
      omega

theorem work_change (custody : Custody m settled) (answered : Answered m actions settled)
    {s s' : Submission} (found : m.submission? s.sequence = some s)
    (moves : s.Moves m.config m.retriesStopped action s') : (m.change action s').work < m.work := by
  have mem := (submission?_eq_some found).1
  have fuel : s'.fuel m.rounds < s.fuel m.rounds :=
    (answered.stands s (List.mem_append_right _ mem)).fuel_lt moves
  have before := ((Submission.perm_cons_filter custody.distinct_inFlight mem).map
    (·.fuel m.rounds)).sum_nat
  have after := ((Submission.perm_cons_replace custody.distinct_inFlight mem
    moves.sequence_eq).map (·.fuel m.rounds)).sum_nat
  rw [List.map_cons, List.sum_cons] at before after
  change m.phase.work m.rounds + ((m.inFlight.map fun other =>
    if other.sequence = s'.sequence then s' else other).map (·.fuel m.rounds)).sum <
      m.phase.work m.rounds + (m.inFlight.map (·.fuel m.rounds)).sum
  omega

theorem work_receive (custody : Custody m settled) {s : Submission}
    (found : m.submission? s.sequence = some s) (ended : s.isOver = true)
    (active : m.phase ≠ .finished) : (m.receive s).work < m.work := by
  have mem := (submission?_eq_some found).1
  have before := ((Submission.perm_cons_filter custody.distinct_inFlight mem).map
    (·.fuel m.rounds)).sum_nat
  rw [List.map_cons, List.sum_cons, Submission.fuel_of_isOver _ ended] at before
  have phase : (m.receive s).phase.work m.rounds ≤ m.phase.work m.rounds := by
    simp only [Machine.receive]
    split
    · cases phase : m.phase with
      | finished => exact (active phase).elim
      | pulling | draining => simp [Phase.work]
    · exact Nat.le_refl _
  change (m.receive s).phase.work m.rounds +
    ((m.inFlight.filter (·.sequence ≠ s.sequence)).map (·.fuel m.rounds)).sum <
      m.phase.work m.rounds + (m.inFlight.map (·.fuel m.rounds)).sum
  omega

/-- Every step uses up work, apart from what it makes room for. -/
theorem Step.work_lt (step : m.Step action m') (custody : Custody m settled)
    (answered : Answered m actions settled) : m'.work < m.work + grant m.rounds action := by
  cases step with
  | cancel => exact Nat.lt_succ_self m.work
  | document d room going =>
      have bound := m.work_dispatch (m.batcher.push (m.config.prepare m.position d)) m.phase
        (m.position + 1)
      refine Nat.lt_of_le_of_lt bound ?_
      simp only [work, grant]
      omega
  | ended room going =>
      have bound := m.work_dispatch m.batcher.flush .draining m.position
      refine Nat.lt_of_le_of_lt bound ?_
      simp only [work, grant, pulling_of_canPull room, Phase.work]
      omega
  | failed _ room _ | stop room _ =>
      change Phase.draining.work m.rounds + (m.inFlight.map (·.fuel m.rounds)).sum < _
      simp only [work, pulling_of_canPull room, Phase.work]
      omega
  | advance found moves =>
      exact Nat.lt_add_right _ (work_change custody answered found moves)
  | absorb found awaits ended =>
      exact work_receive custody found ended (ne_finished_of_awaits awaits)
  | close done =>
      simp only [canClose, Bool.and_eq_true, decide_eq_true_eq] at done
      change Phase.finished.work m.rounds + (m.inFlight.map (·.fuel m.rounds)).sum < _
      simp only [work, done.1, Phase.work, grant]
      omega

theorem sum_grant (rounds : Nat) (actions : List Action) :
    (actions.map (grant rounds)).sum =
      (documents actions).length * (3 * rounds + 1) + actions.countP (·.isCancel) := by
  induction actions with
  | nil => simp [documents]
  | cons action actions ih =>
      simp only [documents] at ih
      rw [List.map_cons, List.sum_cons, ih, documents, List.filterMap_cons, List.countP_cons]
      cases action with
      | pull pull =>
          cases pull with
          | document d =>
              simp only [grant, Action.document?, Action.isCancel, List.length_cons,
                Nat.succ_mul]
              simp only [Bool.false_eq_true, if_false]
              omega
          | finished | failed _ => simp [grant, Action.document?, Action.isCancel]
      | cancel =>
          simp only [grant, Action.document?, Action.isCancel, if_true]
          omega
      | _ => simp [grant, Action.document?, Action.isCancel]

/-- A run takes no more steps than its documents and the requests to stop it make room for. -/
theorem length_of_run (run : (Machine.start config cancelled).run? actions = some m) :
    actions.length + m.work ≤
      (Machine.start config cancelled).work +
        ((documents actions).length * (3 * m.rounds + 1) + actions.countP (·.isCancel)) := by
  rw [← sum_grant]
  refine run_induction
    (P := fun actions m => actions.length + m.work ≤
      (Machine.start config cancelled).work + (actions.map (grant m.rounds)).sum)
    (by simp) ?_ run
  intro actions m action m' run ih step
  have lt := step.work_lt (custody_of_run run) (answered_of_run run)
  have same : m'.rounds = m.rounds := by rw [rounds, step.config_eq, rounds]
  rw [List.length_append, List.length_singleton, List.map_append, List.sum_append,
    List.map_singleton, List.sum_singleton, same]
  omega

theorem submission?_of_mem (custody : Custody m settled) {s : Submission} (mem : s ∈ m.inFlight) :
    m.submission? s.sequence = some s := by
  cases found : m.submission? s.sequence with
  | none =>
      have absent := List.find?_eq_none.mp found s mem
      simp at absent
  | some other =>
      obtain ⟨here, same⟩ := submission?_eq_some found
      rw [Submission.eq_of_sequence_eq custody.distinct_inFlight here mem same]

/-- Before a run has finished its driver can pull or stop pulling, or close, or a submission is out
for which it waits. -/
theorem waits_of_active (custody : Custody m settled) (wide : 0 < m.config.maxInFlight)
    (active : m.phase ≠ .finished) :
    m.canPull = true ∨ m.canClose = true ∨
      m.awaitsSubmission = true ∧ ∃ s, m.submission? s.sequence = some s := by
  have found : m.inFlight ≠ [] → ∃ s, m.submission? s.sequence = some s := by
    intro out
    obtain ⟨s, mem⟩ := List.exists_mem_of_ne_nil _ out
    exact ⟨s, submission?_of_mem custody mem⟩
  cases phase : m.phase with
  | finished => exact (active phase).elim
  | draining =>
      by_cases out : m.inFlight = []
      · exact .inr (.inl (by simp [canClose, phase, out]))
      · exact .inr (.inr ⟨by simp [awaitsSubmission, phase, out], found out⟩)
  | pulling =>
      by_cases room : m.hasRoom = true
      · exact .inl (by simp [canPull, phase, room])
      · refine .inr (.inr ⟨by simp [awaitsSubmission, phase, room], found ?_⟩)
        intro out
        have bound : 0 < m.config.maxInFlight.toNat := wide
        simp [hasRoom, out, bound] at room

end Machine

end BulkIngest
