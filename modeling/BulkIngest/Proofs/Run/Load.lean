import BulkIngest.Proofs.Batching.Bounds
import BulkIngest.Proofs.Run.Conservation
import Mathlib.Algebra.Group.Action.Defs
import Mathlib.Algebra.Order.BigOperators.Group.List
import Mathlib.Algebra.Order.Ring.Nat
import Mathlib.Data.List.Perm.Subperm

/-!
How much a run has under way. A document is pulled only while there is room for one more submission,
and one pull brings at most one batch, so there are never more submissions than the settings allow,
nor more calls on the wire; each of them carries a full batch at most, and the batcher holds less
than one.
-/

namespace BulkIngest.Machine

variable {config : PipelineConfig} {cancelled : Bool} {m m' : Machine} {action : Action}
  {actions : List Action} {settled : List Submission}

/-- Documents that were pulled and have no outcome yet. -/
def backlog (m : Machine) : List DocumentRef := m.travelling ++ m.waiting

structure Bounded (m : Machine) : Prop where
  maxCount : m.batcher.maxCount = max m.config.maxBatchCount.toNat 1
  room : m.batcher.Roomy
  out : m.inFlight.length ≤ m.config.maxInFlight.toNat
  size : ∀ s ∈ m.inFlight, s.batch.size ≤ m.batcher.maxCount

theorem bounded_start : Bounded (.start config cancelled) :=
  ⟨rfl, Batcher.roomy_empty _ _, Nat.zero_le _, fun _ mem => by simp [start] at mem⟩

theorem length_lt_of_canPull (room : m.canPull = true) :
    m.inFlight.length < m.config.maxInFlight.toNat := by
  simp only [canPull, hasRoom, Bool.and_eq_true, decide_eq_true_eq] at room
  exact room.2

theorem Bounded.dispatch {result : Option Batch × Batcher} (h : Bounded m)
    (room : m.canPull = true) (keeps : m.batcher.KeepsBounds result.1.toList result.2)
    (phase : Phase) (position : Nat) :
    Bounded ({ m with phase, position, batcher := result.2 }.dispatch? result.1) := by
  have free := length_lt_of_canPull room
  have one : result.1.toList.length ≤ 1 := by cases result.1 <;> simp
  rw [dispatch?_eq]
  refine ⟨keeps.maxCount.trans h.maxCount, keeps.room, ?_, ?_⟩
  · simp only [List.length_append, List.length_map]
    omega
  · intro s mem
    simp only [keeps.maxCount]
    rcases List.mem_append.mp mem with mem | mem
    · exact h.size s mem
    · obtain ⟨batch, handed, rfl⟩ := List.mem_map.mp mem
      exact keeps.size batch handed

theorem Bounded.step (h : Bounded m) (step : m.Step action m') : Bounded m' := by
  cases step with
  | cancel | failed reason room going | stop room asked =>
      exact ⟨h.maxCount, h.room, h.out, h.size⟩
  | document d room going => exact h.dispatch room (Batcher.keepsBounds_push h.room _) m.phase _
  | ended room going =>
      exact h.dispatch room (Batcher.keepsBounds_flush h.room) .draining _
  | @advance _ s s' found moves =>
      refine ⟨h.maxCount, h.room, ?_, ?_⟩
      · simpa only [Machine.change, List.length_map] using h.out
      · intro other mem
        obtain ⟨old, here, rfl⟩ := List.mem_map.mp mem
        split
        · rw [moves.batch_eq]
          exact h.size s (submission?_eq_some found).1
        · exact h.size old here
  | absorb found awaits ended =>
      refine ⟨h.maxCount, h.room, ?_, ?_⟩
      · exact Nat.le_trans (List.length_filter_le _ _) h.out
      · exact fun s mem => h.size s (List.mem_of_mem_filter mem)
  | close done =>
      have kept := Batcher.keepsBounds_flush h.room
      cases reason : m.halt.isSome with
      | false => exact ⟨by simpa [closed, reason] using h.maxCount,
          by simpa [closed, reason] using h.room, h.out, by simpa [closed, reason] using h.size⟩
      | true =>
          refine ⟨?_, ?_, h.out, ?_⟩
          · simpa [closed, reason, kept.maxCount] using h.maxCount
          · simpa [closed, reason, kept.maxCount] using kept.room
          · simpa [closed, reason, kept.maxCount] using h.size

theorem bounded_of_run (run : (Machine.start config cancelled).run? actions = some m) :
    Bounded m :=
  run_induction (P := fun _ m => Bounded m) bounded_start
    (fun _ _ _ _ _ ih step => ih.step step) run

/-- A call that is on the wire belongs to a submission that is out. -/
def CallsOut (m : Machine) (actions : List Action) : Prop :=
  ∀ sequence, lastCall? m.config sequence actions = some none →
    sequence ∈ m.inFlight.map (·.sequence)

theorem CallsOut.carry (h : CallsOut m actions) (quiet : action.sequence? = none)
    (config : m'.config = m.config)
    (out : ∀ sequence ∈ m.inFlight.map (·.sequence), sequence ∈ m'.inFlight.map (·.sequence)) :
    CallsOut m' (actions ++ [action]) := by
  intro sequence open_
  rw [config, lastCall?_of_ne actions (by simp [quiet])] at open_
  exact out sequence (h sequence open_)

theorem CallsOut.change {s s' : Submission} (h : CallsOut m actions)
    (found : m.submission? s.sequence = some s)
    (moves : s.Moves m.config m.retriesStopped action s') :
    CallsOut (m.change action s') (actions ++ [action]) := by
  have same : (m.change action s').inFlight.map (·.sequence) = m.inFlight.map (·.sequence) := by
    simp only [Machine.change, List.map_map]
    apply List.map_congr_left
    intro other here
    simp only [Function.comp_apply]
    split
    · exact Eq.symm ‹_›
    · rfl
  intro sequence open_
  rw [same]
  by_cases about : sequence = s.sequence
  · rw [about]
    exact List.mem_map_of_mem (submission?_eq_some found).1
  · have other : action.sequence? ≠ some sequence := by
      simpa [moves.sequence?_eq] using Ne.symm about
    rw [lastCall?_of_ne actions other] at open_
    exact h sequence open_

theorem CallsOut.receive {s : Submission} (h : CallsOut m actions)
    (answered : Answered m actions settled) (found : m.submission? s.sequence = some s)
    (ended : s.isOver = true) :
    CallsOut (m.receive s) (actions ++ [.absorb s.sequence]) := by
  intro sequence open_
  rw [lastCall?_absorb] at open_
  obtain ⟨other, here, rfl⟩ := List.mem_map.mp (h sequence open_)
  -- the submission that came in has been answered, so the open call is not its own
  have different : other.sequence ≠ s.sequence := by
    intro same
    have stands := answered.stands s (List.mem_append_right _ (submission?_eq_some found).1)
    obtain ⟨a, last, -⟩ := stands.outcomes_eq ended
    rw [same] at open_
    simp [show lastCall? m.config s.sequence actions = some none from open_] at last
  exact List.mem_map_of_mem (List.mem_filter.mpr ⟨here, by simpa using different⟩)

theorem CallsOut.step (h : CallsOut m actions) (answered : Answered m actions settled)
    (step : m.Step action m') : CallsOut m' (actions ++ [action]) := by
  cases step with
  | cancel | failed reason room going | stop room asked | close done =>
      exact h.carry rfl rfl fun _ mem => mem
  | document d room going | ended room going =>
      rw [dispatch?_eq]
      refine h.carry rfl rfl fun sequence mem => ?_
      rw [List.map_append]
      exact List.mem_append_left _ mem
  | advance found moves => exact h.change found moves
  | absorb found awaits ended => exact h.receive answered found ended

theorem callsOut_of_run (run : (Machine.start config cancelled).run? actions = some m) :
    CallsOut m actions := by
  refine run_induction (P := fun actions m => CallsOut m actions)
    (fun _ open_ => by contradiction) ?_ run
  intro actions m action m' run ih step
  exact ih.step (answered_of_run run) step

/-- Each submission carries a full batch at most. -/
theorem Bounded.length_travelling_le (h : Bounded m) :
    m.travelling.length ≤ m.inFlight.length * m.batcher.maxCount := by
  rw [travelling, List.length_flatMap]
  have size : ∀ n ∈ m.inFlight.map fun s => s.batch.refs.length, n ≤ m.batcher.maxCount := by
    intro n mem
    obtain ⟨s, here, rfl⟩ := List.mem_map.mp mem
    rw [Batch.length_refs]
    exact h.size s here
  have sum := List.sum_le_card_nsmul _ _ size
  rwa [List.length_map, smul_eq_mul] at sum

/-- At each moment of a run at most `maxInFlight` submissions are out, and as many calls on the
wire; and of the documents that were pulled, at most those of `maxInFlight` full batches and all but
one of another are without an outcome. -/
theorem load_bounded (config : PipelineConfig) (cancelled : Bool) (actions : List Action)
    (m : Machine) (accepted : config.complaint? = none)
    (run : (Machine.start config cancelled).run? actions = some m) :
    m.inFlight.length ≤ config.maxInFlight.toNat ∧
      (∀ sequences : List Nat, sequences.Nodup →
        (∀ sequence ∈ sequences, lastCall? config sequence actions = some none) →
        sequences.length ≤ config.maxInFlight.toNat) ∧
      m.position = m.journal.recorded.length + m.backlog.length ∧
      m.backlog.length ≤ config.maxInFlight.toNat * config.maxBatchCount.toNat +
        config.maxBatchCount.toNat - 1 := by
  have bounded := bounded_of_run run
  have calls := callsOut_of_run run
  have out := bounded.out
  have conserved := (positions_conserved run).length_eq
  rw [CallsOut, config_of_run run] at calls
  rw [config_of_run run] at out
  refine ⟨out, ?_, ?_, ?_⟩
  · intro sequences distinct open_
    have within : sequences ⊆ m.inFlight.map (·.sequence) :=
      fun sequence mem => calls sequence (open_ sequence mem)
    have fewer := (List.subperm_of_subset distinct within).length_le
    rw [List.length_map] at fewer
    exact Nat.le_trans fewer out
  · simp only [List.length_map, List.length_append, List.length_range, accounted] at conserved
    simp only [backlog, List.length_append]
    omega
  · have positive : max config.maxBatchCount.toNat 1 = config.maxBatchCount.toNat := by
      rw [config.complaint?_eq_none_iff] at accepted
      have positive : config.maxBatchCount.toNat ≠ 0 := UInt64.toNat_inj.not.mpr accepted.2.1
      omega
    have count := bounded.maxCount
    rw [config_of_run run, positive] at count
    have travelling := bounded.length_travelling_le
    have waiting := bounded.room.count
    rw [count] at travelling waiting
    have most := Nat.mul_le_mul_right config.maxBatchCount.toNat out
    simp only [backlog, List.length_append, Machine.waiting, List.length_map]
    omega

/-- Two batches are on the wire, the second one flushed at the end of the source. -/
def crowdedRun : List Action :=
  [.pull (.document []), .pull (.document []), .send 1, .pull (.document []), .pull .finished,
    .send 2]

theorem crowdedRun_runs :
    ((Machine.start wreckedConfig false).run? crowdedRun).isSome = true := by
  decide +kernel

theorem load_bounded_crowdedRun :
    ∃ m, wreckedConfig.complaint? = none ∧
      (Machine.start wreckedConfig false).run? crowdedRun = some m ∧
      [1, 2].length ≤ wreckedConfig.maxInFlight.toNat ∧
      m.inFlight.length ≤ wreckedConfig.maxInFlight.toNat ∧ m.backlog.length ≤ 5 := by
  have accepted : wreckedConfig.complaint? = none := by decide +kernel
  obtain ⟨m, run⟩ := Option.isSome_iff_exists.mp crowdedRun_runs
  obtain ⟨out, calls, -, backlog⟩ := load_bounded wreckedConfig false crowdedRun m accepted run
  refine ⟨m, accepted, run, calls [1, 2] (by decide) ?_, out, backlog⟩
  intro sequence mem
  simp only [List.mem_cons, List.not_mem_nil, or_false] at mem
  rcases mem with rfl | rfl
  · rfl
  · rfl

end BulkIngest.Machine
