import BulkIngest.Proofs.Run.Ledger

/-!
Conservation of documents. At each moment of a run every document that was pulled is in exactly one
place: it has its outcome, or its batch is out, or it is pending; and when the run has finished it
has exactly one outcome, under its own name.
-/

namespace BulkIngest

theorem PipelineConfig.positions_items (config : PipelineConfig) (docs : List Document) :
    (config.items docs).map (·.ref.position) = List.range docs.length := by
  apply List.ext_getElem
  · simp [items]
  · intro i h h'
    simp [items, prepare, BulkItem.make]

/-- Positions tell documents apart. -/
theorem PipelineConfig.nodup_refs (config : PipelineConfig) (docs : List Document) :
    ((config.items docs).map (·.ref)).Nodup := by
  apply List.Nodup.of_map (·.position)
  rw [List.map_map]
  exact (config.positions_items docs).symm ▸ List.nodup_range

namespace Machine

variable {config : PipelineConfig} {cancelled : Bool} {m : Machine} {actions : List Action}

/-- Documents that have an outcome. -/
def accounted (m : Machine) : List DocumentRef := m.journal.recorded.map (·.ref)

/-- Documents of batches that are out. -/
def travelling (m : Machine) : List DocumentRef := m.inFlight.flatMap (·.batch.refs)

/-- Documents that wait for their batch to fill. -/
def waiting (m : Machine) : List DocumentRef := m.batcher.pending.map (·.ref)

theorem refs_unsentOutcomesOf {halt : Option Halt} {items : List BulkItem}
    (reason : items ≠ [] → halt.isSome = true) :
    (unsentOutcomesOf halt items).map (·.ref) = items.map (·.ref) := by
  cases halt with
  | none =>
      by_cases empty : items = []
      · rw [empty]
        rfl
      · exact absurd (reason empty) (by simp)
  | some halt =>
      simp only [unsentOutcomesOf, List.map_map]
      rfl

theorem refs_outcomes {settled : List Submission} (answered : Answered m actions settled) :
    (settled.flatMap (·.outcomes)).map (·.ref) = settled.flatMap (·.batch.refs) := by
  rw [List.map_flatMap]
  apply List.flatMap_congr
  intro s mem
  obtain ⟨a, -, outcomes⟩ :=
    (answered.stands s (List.mem_append_left _ mem)).outcomes_eq (answered.ended s mem)
  rw [outcomes, Batch.refs_outcomesOf]

theorem length_outcomes {settled : List Submission} (answered : Answered m actions settled) :
    (settled.flatMap (·.outcomes)).length = (settled.map (·.batch.size)).sum := by
  have refs := congrArg List.length (refs_outcomes answered)
  rw [List.length_map] at refs
  rw [refs, List.length_flatMap]
  exact congrArg List.sum (List.map_congr_left fun s _ => s.batch.length_refs)

theorem refs_conserved (run : (Machine.start config cancelled).run? actions = some m) :
    List.Perm (m.accounted ++ m.travelling ++ m.waiting)
      ((config.items (documents actions)).map (·.ref)) := by
  obtain ⟨unsent, ledger⟩ := ledger_of_run run
  have custody := custody_of_run run
  have answered := answered_of_run run
  have held := custody.held.flatMap_right (·.refs)
  rw [List.flatMap_map, List.flatMap_append] at held
  rw [← config_of_run run, ← ledger.items, accounted, ledger.recorded, List.map_append,
    refs_outcomes answered, refs_unsentOutcomesOf ledger.reason, List.map_append, List.map_append,
    List.map_flatMap]
  refine List.Perm.append_right _ ?_
  rw [List.append_assoc]
  refine (List.perm_append_comm.append_left _).trans ?_
  rw [← List.append_assoc]
  exact held.append_right _

theorem positions_conserved (run : (Machine.start config cancelled).run? actions = some m) :
    List.Perm ((m.accounted ++ m.travelling ++ m.waiting).map (·.position))
      (List.range m.position) := by
  obtain ⟨unsent, ledger⟩ := ledger_of_run run
  have perm := (refs_conserved run).map (·.position)
  rw [List.map_map] at perm
  rw [ledger.position, ← config.positions_items]
  exact perm

/-- The counters that are shown in the end are the numbers of outcomes. -/
theorem summary_counts (run : (Machine.start config cancelled).run? actions = some m) :
    m.summary.attempted = m.journal.recorded.length ∧
      m.summary.succeeded = m.journal.recorded.countP (·.isSuccess) ∧
      m.summary.attempted = m.summary.succeeded + m.summary.failed := by
  obtain ⟨unsent, ledger⟩ := ledger_of_run run
  have bound := List.countP_le_length (p := (·.isSuccess)) (l := m.journal.recorded)
  simp only [summary, ledger.counted, Snapshot.add, Snapshot.zero, Nat.zero_add, true_and]
  omega

/-- Once a run has finished, all documents have their outcomes. -/
theorem accounted_of_finished (run : (Machine.start config cancelled).run? actions = some m)
    (finished : m.isFinished = true) :
    List.Perm m.accounted ((config.items (documents actions)).map (·.ref)) := by
  obtain ⟨out, pending⟩ := (phased_of_run run).finished (of_decide_eq_true finished)
  simpa [travelling, waiting, out, pending] using refs_conserved run

/-- The documents that were pulled are the disjoint union of those with an outcome, those on their
way and those that wait; and when the run is over, each of them has exactly one outcome, under its
own name. -/
theorem documents_conserved (config : PipelineConfig) (cancelled : Bool) (actions : List Action)
    (m : Machine) (run : (Machine.start config cancelled).run? actions = some m) :
    m.position = (documents actions).length ∧
      List.Perm ((m.accounted ++ m.travelling ++ m.waiting).map (·.position))
        (List.range m.position) ∧
      List.Perm (m.accounted ++ m.travelling ++ m.waiting)
        ((config.items (documents actions)).map (·.ref)) ∧
      m.tracker.snapshot = Snapshot.zero.add m.journal.recorded ∧
      (m.isFinished = true →
        m.inFlight = [] ∧ m.batcher.pending = [] ∧
        (∀ item ∈ config.items (documents actions), m.accounted.count item.ref = 1) ∧
        m.summary.attempted = m.position ∧
        m.summary.attempted = m.summary.succeeded + m.summary.failed) := by
  obtain ⟨unsent, ledger⟩ := ledger_of_run run
  refine ⟨ledger.position, positions_conserved run, refs_conserved run, ledger.counted,
    fun finished => ?_⟩
  obtain ⟨out, pending⟩ := (phased_of_run run).finished (of_decide_eq_true finished)
  have accounted := accounted_of_finished run finished
  have distinct : m.accounted.Nodup := accounted.nodup_iff.mpr (config.nodup_refs _)
  obtain ⟨attempted, -, balanced⟩ := summary_counts run
  refine ⟨out, pending, fun item mem => ?_, ?_, balanced⟩
  · exact List.count_eq_one_of_mem distinct (accounted.mem_iff.mpr (List.mem_map_of_mem mem))
  · have length := accounted.length_eq
    rw [Machine.accounted, List.length_map, List.length_map, PipelineConfig.length_items] at length
    rw [attempted, length, ledger.position]

/-- The sink breaks down on the first batch, and the run is stopped with a document pending. -/
def wreckedRun : List Action :=
  [.pull (.document []), .pull (.document [("_id", .string "b")]), .send 1, .pull (.document []),
    .answer 1 (.panicked none), .cancel, .stop, .absorb 1, .close]

def wreckedConfig : PipelineConfig :=
  { indexTarget := "idx", maxBatchCount := 2, maxInFlight := 2 }

theorem isFinished_wreckedRun :
    ((Machine.start wreckedConfig false).run? wreckedRun).any (·.isFinished) = true := by
  decide +kernel

theorem documents_conserved_wreckedRun :
    ∃ m, (Machine.start wreckedConfig false).run? wreckedRun = some m ∧ m.isFinished = true ∧
      m.inFlight = [] ∧ m.batcher.pending = [] ∧
      (∀ item ∈ wreckedConfig.items (documents wreckedRun), m.accounted.count item.ref = 1) ∧
      m.summary.attempted = m.position ∧
      m.summary.attempted = m.summary.succeeded + m.summary.failed := by
  obtain ⟨m, run, finished⟩ := (Option.any_eq_true _ _).mp isFinished_wreckedRun
  have conserved := documents_conserved wreckedConfig false wreckedRun m run
  exact ⟨m, run, finished, conserved.2.2.2.2 finished⟩

end Machine

end BulkIngest
