import BulkIngest.Proofs.Run.History
import Mathlib.Data.List.Nodup
import Mathlib.Data.List.Perm.Basic

/-!
Where batches are. Batches are numbered from one in the order in which they leave the batcher, and
each of them is with exactly one submission, which is out or has come in. So a number names at most
one submission, and an action on a batch leaves all others alone.
-/

namespace BulkIngest

namespace Submission

variable {s s' : Submission} {submissions : List Submission}

theorem eq_of_sequence_eq (distinct : (submissions.map (·.sequence)).Nodup)
    (mem : s ∈ submissions) (mem' : s' ∈ submissions) (same : s.sequence = s'.sequence) :
    s = s' :=
  List.inj_on_of_nodup_map distinct mem mem' same

theorem map_batch_replace (distinct : (submissions.map (·.sequence)).Nodup)
    (mem : s ∈ submissions) (same : s'.batch = s.batch) :
    (submissions.map fun other => if other.sequence = s'.sequence then s' else other).map
      (·.batch) = submissions.map (·.batch) := by
  rw [List.map_map]
  apply List.map_congr_left
  intro other here
  simp only [Function.comp_apply]
  split
  · rename_i equal
    have equal : other.sequence = s.sequence := equal.trans (congrArg Batch.sequence same)
    rw [eq_of_sequence_eq distinct here mem equal, same]
  · rfl

theorem perm_cons_filter (distinct : (submissions.map (·.sequence)).Nodup)
    (mem : s ∈ submissions) :
    List.Perm submissions (s :: submissions.filter (·.sequence ≠ s.sequence)) := by
  induction submissions with
  | nil => contradiction
  | cons first rest ih =>
      rw [List.map_cons, List.nodup_cons] at distinct
      rcases List.mem_cons.mp mem with rfl | mem
      · have others : rest.filter (·.sequence ≠ s.sequence) = rest := by
          rw [List.filter_eq_self]
          intro other here
          simp only [ne_eq, decide_eq_true_eq]
          intro same
          exact distinct.1 (List.mem_map.mpr ⟨other, here, same⟩)
        rw [List.filter_cons_of_neg (by simp), others]
      · have other : first.sequence ≠ s.sequence := by
          intro same
          exact distinct.1 (List.mem_map.mpr ⟨s, mem, same.symm⟩)
        simp only [List.filter_cons, ne_eq, other, not_false_eq_true, decide_true, if_true]
        exact ((ih distinct.2 mem).cons first).trans (.swap s first _)

theorem perm_cons_replace (distinct : (submissions.map (·.sequence)).Nodup)
    (mem : s ∈ submissions) (same : s'.sequence = s.sequence) :
    List.Perm (submissions.map fun other => if other.sequence = s'.sequence then s' else other)
      (s' :: submissions.filter (·.sequence ≠ s.sequence)) := by
  have others : (submissions.filter (·.sequence ≠ s.sequence)).map
      (fun other => if other.sequence = s'.sequence then s' else other) =
      submissions.filter (·.sequence ≠ s.sequence) := by
    rw [List.map_congr_left (g := id) ?_, List.map_id]
    intro other here
    have different : other.sequence ≠ s.sequence := by simpa using (List.mem_filter.mp here).2
    simp [same, different]
  have perm := (perm_cons_filter distinct mem).map
    fun other => if other.sequence = s'.sequence then s' else other
  rw [List.map_cons, others, same, if_pos rfl] at perm
  rw [same]
  exact perm

end Submission

namespace Machine

variable {config : PipelineConfig} {cancelled : Bool} {m m' : Machine} {action : Action}
  {settled : List Submission}

/-- `settled` are the submissions that have come in. -/
structure Custody (m : Machine) (settled : List Submission) : Prop where
  numbered : m.journal.dispatched.map (·.sequence) =
    List.range' 1 m.journal.dispatched.length
  next : m.phase ≠ .finished → m.batcher.sequence = m.journal.dispatched.length
  batches : m.batches = m.journal.dispatched.length
  filled : ∀ batch ∈ m.journal.dispatched, batch.items ≠ []
  held : List.Perm ((settled ++ m.inFlight).map (·.batch)) m.journal.dispatched

theorem Custody.distinct (h : Custody m settled) :
    ((settled ++ m.inFlight).map (·.sequence)).Nodup := by
  have perm := h.held.map (·.sequence)
  rw [h.numbered, List.map_map] at perm
  exact perm.nodup_iff.mpr List.nodup_range'

theorem Custody.distinct_inFlight (h : Custody m settled) :
    (m.inFlight.map (·.sequence)).Nodup := by
  have distinct := h.distinct
  rw [List.map_append] at distinct
  exact distinct.of_append_right

theorem Custody.mem_dispatched (h : Custody m settled) {s : Submission}
    (mem : s ∈ settled ++ m.inFlight) : s.batch ∈ m.journal.dispatched :=
  h.held.mem_iff.mp (List.mem_map_of_mem mem)

theorem custody_start : Custody (.start config cancelled) [] :=
  ⟨rfl, fun _ => rfl, rfl, fun _ mem => absurd mem List.not_mem_nil, .nil⟩

/-- Whatever else changes, a batch that the batcher hands over goes out as a submission of its
own. -/
theorem Custody.dispatch {new : List BulkItem} {result : Option Batch × Batcher}
    (h : Custody m settled) (hands : m.batcher.HandsOver new result.1.toList result.2)
    (active : m.phase ≠ .finished) (phase : Phase) (position : Nat) :
    Custody ({ m with phase, position, batcher := result.2 }.dispatch? result.1) settled := by
  have next := h.next active
  rw [dispatch?_eq]
  refine ⟨?_, fun _ => ?_, ?_, ?_, ?_⟩
  · simp only [List.map_append, h.numbered, hands.numbered, next, List.length_append]
    rw [Nat.add_comm m.journal.dispatched.length 1, List.range'_append_1]
  · simp only [hands.sequence, next, List.length_append]
  · simp only [h.batches, List.length_append]
  · intro batch mem
    exact (List.mem_append.mp mem).elim (h.filled batch) (hands.filled batch)
  · have outgoing : (result.1.toList.map Submission.of).map (·.batch) = result.1.toList := by
      rw [List.map_map]
      exact List.map_id _
    rw [← List.append_assoc, List.map_append, outgoing]
    exact h.held.append_right _

theorem Custody.change (h : Custody m settled) {s s' : Submission}
    (found : m.submission? s.sequence = some s)
    (moves : s.Moves m.config m.retriesStopped action s') :
    Custody (m.change action s') settled := by
  refine ⟨h.numbered, h.next, h.batches, h.filled, ?_⟩
  simp only [Machine.change, List.map_append,
    Submission.map_batch_replace h.distinct_inFlight (submission?_eq_some found).1 moves.batch_eq]
  simpa only [List.map_append] using h.held

theorem Custody.receive (h : Custody m settled) {s : Submission}
    (found : m.submission? s.sequence = some s) (active : m.phase ≠ .finished) :
    Custody (m.receive s) (settled ++ [s]) := by
  refine ⟨h.numbered, fun _ => h.next active, h.batches, h.filled, ?_⟩
  have perm := Submission.perm_cons_filter h.distinct_inFlight (submission?_eq_some found).1
  have moved : List.Perm (settled ++ m.inFlight)
      (settled ++ [s] ++ m.inFlight.filter (·.sequence ≠ s.sequence)) := by
    rw [List.append_assoc, List.singleton_append]
    exact perm.append_left settled
  exact (moved.map (·.batch)).symm.trans h.held

theorem absorbedBy_of_moves {s s' : Submission} {stopped : Bool}
    (moves : s.Moves config stopped action s') : m.absorbedBy action = none := by
  cases moves <;> rfl

theorem ne_finished_of_canPull (room : m.canPull = true) : m.phase ≠ .finished := by
  intro finished
  simp [canPull, finished] at room

theorem ne_finished_of_awaits (awaits : m.awaitsSubmission = true) : m.phase ≠ .finished := by
  intro finished
  simp [awaitsSubmission, finished] at awaits

theorem append_absorbedBy (quiet : m.absorbedBy action = none) :
    settled ++ (m.absorbedBy action).toList = settled := by
  rw [quiet, Option.toList_none, List.append_nil]

theorem Custody.step (h : Custody m settled) (step : m.Step action m') :
    Custody m' (settled ++ (m.absorbedBy action).toList) := by
  cases step with
  | cancel =>
      rw [append_absorbedBy rfl]
      exact ⟨h.numbered, h.next, h.batches, h.filled, h.held⟩
  | document d room going =>
      rw [append_absorbedBy rfl]
      exact h.dispatch (m.batcher.handsOver_push _) (ne_finished_of_canPull room) m.phase _
  | ended room going =>
      rw [append_absorbedBy rfl]
      exact h.dispatch m.batcher.handsOver_flush (ne_finished_of_canPull room) .draining _
  | failed reason room going =>
      rw [append_absorbedBy rfl]
      exact ⟨h.numbered, fun _ => h.next (ne_finished_of_canPull room), h.batches, h.filled, h.held⟩
  | stop room asked =>
      rw [append_absorbedBy rfl]
      exact ⟨h.numbered, fun _ => h.next (ne_finished_of_canPull room), h.batches, h.filled, h.held⟩
  | advance found moves =>
      rw [append_absorbedBy (absorbedBy_of_moves moves)]
      exact h.change found moves
  | absorb found awaits ended =>
      simpa only [absorbedBy, found, Option.toList_some] using
        h.receive found (ne_finished_of_awaits awaits)
  | close done =>
      rw [append_absorbedBy rfl]
      exact ⟨h.numbered, fun active => (active rfl).elim, h.batches, h.filled, h.held⟩

/-- At each moment of a run every batch that left the batcher is with exactly one submission. -/
theorem custody_of_run {actions : List Action}
    (run : (Machine.start config cancelled).run? actions = some m) :
    Custody m ((Machine.start config cancelled).absorbed actions) := by
  refine run_induction
    (P := fun actions m => Custody m ((Machine.start config cancelled).absorbed actions))
    custody_start ?_ run
  intro actions m action m' run ih step
  rw [absorbed_concat action run]
  exact ih.step step

end Machine

end BulkIngest
