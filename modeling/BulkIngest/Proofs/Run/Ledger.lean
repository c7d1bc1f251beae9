import BulkIngest.Proofs.Run.Phases
import Mathlib.Algebra.Ring.Nat

/-!
The books of a run. The documents that were pulled are those of the batches that went out, what was
never sent and what is pending, in the order of pulls; the outcomes that were recorded are those of
the submissions that came in, and then one for each document that was never sent. The counters are
the numbers of these.
-/

namespace BulkIngest

theorem Snapshot.add_append (snapshot : Snapshot) (before after : List Outcome) :
    snapshot.add (before ++ after) = (snapshot.add before).add after := by
  have h := List.countP_le_length (p := (·.isSuccess)) (l := before)
  have h' := List.countP_le_length (p := (·.isSuccess)) (l := after)
  simp only [add, List.countP_append, List.length_append, Snapshot.mk.injEq]
  omega

namespace Machine

variable {config : PipelineConfig} {cancelled : Bool} {m m' : Machine} {action : Action}
  {actions : List Action} {docs : List Document} {settled : List Submission}
  {unsent : List BulkItem}

structure Ledger (m : Machine) (docs : List Document) (settled : List Submission)
    (unsent : List BulkItem) : Prop where
  position : m.position = docs.length
  items : m.journal.dispatched.flatMap (·.items) ++ unsent ++ m.batcher.pending =
    m.config.items docs
  recorded : m.journal.recorded =
    settled.flatMap (·.outcomes) ++ unsentOutcomesOf m.halt unsent
  counted : m.tracker.snapshot = Snapshot.zero.add m.journal.recorded
  retried : m.retries = (settled.map (·.retries)).sum
  withheld : m.unsent = unsent.length
  active : m.phase ≠ .finished → unsent = []
  reason : unsent ≠ [] → m.halt.isSome = true

theorem ledger_start : Ledger (.start config cancelled) [] [] [] :=
  ⟨rfl, rfl, rfl, rfl, rfl, rfl, fun _ => rfl, fun h => (h rfl).elim⟩

theorem Ledger.dispatch {docs' : List Document} {position : Nat} {new : List BulkItem}
    {result : Option Batch × Batcher} (h : Ledger m docs settled unsent)
    (hands : m.batcher.HandsOver new result.1.toList result.2) (active : m.phase ≠ .finished)
    (phase : Phase)
    (here : position = docs'.length) (items : m.config.items docs' = m.config.items docs ++ new) :
    Ledger ({ m with phase, position, batcher := result.2 }.dispatch? result.1) docs' settled
      unsent := by
  obtain rfl := h.active active
  rw [dispatch?_eq]
  refine ⟨here, ?_, h.recorded, h.counted, h.retried, h.withheld, fun _ => rfl, h.reason⟩
  have handed := h.items
  rw [List.append_nil] at handed ⊢
  rw [items, ← handed, List.append_assoc, ← hands.items, List.flatMap_append, List.append_assoc]

theorem Ledger.haltWith (h : Ledger m docs settled unsent) (active : m.phase ≠ .finished)
    (halt : Halt) : Ledger (m.haltWith halt) docs settled unsent := by
  obtain rfl := h.active active
  refine ⟨h.position, h.items, ?_, h.counted, h.retried, h.withheld, fun _ => rfl,
    fun withheld => (withheld rfl).elim⟩
  rw [unsentOutcomesOf_nil]
  exact h.recorded.trans (by rw [unsentOutcomesOf_nil])

theorem Ledger.receive (h : Ledger m docs settled unsent) (active : m.phase ≠ .finished)
    (s : Submission) : Ledger (m.receive s) docs (settled ++ [s]) unsent := by
  obtain rfl := h.active active
  refine ⟨h.position, h.items, ?_, ?_, ?_, h.withheld, fun _ => rfl,
    fun withheld => (withheld rfl).elim⟩
  · have recorded := h.recorded
    rw [unsentOutcomesOf_nil, List.append_nil] at recorded ⊢
    simp only [Machine.receive, recorded, List.flatMap_append, List.flatMap_singleton]
  · simp only [Machine.receive, Tracker.record, Tracker.publish, h.counted, Snapshot.add_append]
  · simp only [Machine.receive, h.retried, List.map_append, List.sum_append, List.map_singleton,
      List.sum_singleton]

theorem Ledger.closed (h : Ledger m docs settled unsent) (phased : Phased m settled)
    (draining : m.phase = .draining) :
    Ledger m.closed docs settled (if m.halt.isSome then m.batcher.pending else []) := by
  obtain rfl := h.active (by simp [draining])
  have items := h.items
  have recorded := h.recorded
  rw [List.append_nil] at items
  rw [unsentOutcomesOf_nil, List.append_nil] at recorded
  cases halt : m.halt with
  | none =>
      have pending := phased.drained (by simp [draining]) halt
      refine ⟨h.position, ?_, ?_, ?_, h.retried, ?_, fun active => (active rfl).elim, ?_⟩
      · simpa [Machine.closed, halt] using items
      · simp [Machine.closed, unsentOutcomes, unsentOutcomesOf, halt, recorded]
      · simpa [Machine.closed, unsentOutcomes, unsentOutcomesOf, halt] using h.counted
      · simpa [Machine.closed, unsentOutcomes, unsentOutcomesOf, halt] using h.withheld
      · exact fun withheld => by simp at withheld
  | some reason =>
      refine ⟨h.position, ?_, ?_, ?_, h.retried, ?_, fun active => (active rfl).elim, ?_⟩
      · simpa [Machine.closed, halt, Batcher.pending_flush] using items
      · simp [Machine.closed, unsentOutcomes, halt, recorded]
      · by_cases empty : m.unsentOutcomes = []
        · simpa [Machine.closed, empty] using h.counted
        · simp [Machine.closed, empty, Tracker.record, Tracker.publish, h.counted,
            Snapshot.add_append]
      · simp [Machine.closed, unsentOutcomes, unsentOutcomesOf, halt, h.withheld]
      · exact fun _ => by simp [Machine.closed, halt]

theorem append_document? (quiet : action.document? = none) :
    docs ++ action.document?.toList = docs := by
  rw [quiet, Option.toList_none, List.append_nil]

theorem Ledger.step (h : Ledger m docs settled unsent) (phased : Phased m settled)
    (step : m.Step action m') :
    ∃ unsent', Ledger m' (docs ++ action.document?.toList)
      (settled ++ (m.absorbedBy action).toList) unsent' := by
  cases step with
  | cancel =>
      rw [append_absorbedBy rfl, append_document? rfl]
      exact ⟨unsent, h.position, h.items, h.recorded, h.counted, h.retried, h.withheld, h.active,
        h.reason⟩
  | document d room going =>
      rw [append_absorbedBy rfl]
      refine ⟨unsent, h.dispatch (m.batcher.handsOver_push _) (ne_finished_of_canPull room)
        m.phase ?_ ?_⟩
      · rw [h.position, List.length_append]
        rfl
      · rw [h.position]
        exact PipelineConfig.items_concat _ _ _
  | ended room going =>
      rw [append_absorbedBy rfl, append_document? rfl]
      exact ⟨unsent, h.dispatch m.batcher.handsOver_flush (ne_finished_of_canPull room) .draining
        h.position (List.append_nil _).symm⟩
  | failed reason room going =>
      rw [append_absorbedBy rfl, append_document? rfl]
      exact ⟨unsent, h.haltWith (ne_finished_of_canPull room) _⟩
  | stop room asked =>
      rw [append_absorbedBy rfl, append_document? rfl]
      exact ⟨unsent, h.haltWith (ne_finished_of_canPull room) _⟩
  | advance found moves =>
      have quiet : action.document? = none := by cases moves <;> rfl
      rw [append_absorbedBy (absorbedBy_of_moves moves), append_document? quiet]
      exact ⟨unsent, h.position, h.items, h.recorded, h.counted, h.retried, h.withheld, h.active,
        h.reason⟩
  | absorb found awaits ended =>
      rw [append_document? rfl]
      simp only [absorbedBy, found, Option.toList_some]
      exact ⟨unsent, h.receive (ne_finished_of_awaits awaits) _⟩
  | close done =>
      simp only [canClose, Bool.and_eq_true, decide_eq_true_eq] at done
      rw [append_absorbedBy rfl, append_document? rfl]
      exact ⟨_, h.closed phased done.1⟩

/-- At each moment of a run the books are right. -/
theorem ledger_of_run (run : (Machine.start config cancelled).run? actions = some m) :
    ∃ unsent, Ledger m (documents actions) ((Machine.start config cancelled).absorbed actions)
      unsent := by
  refine run_induction
    (P := fun actions m => ∃ unsent, Ledger m (documents actions)
      ((Machine.start config cancelled).absorbed actions) unsent)
    ⟨[], ledger_start⟩ ?_ run
  intro actions m action m' run ih step
  obtain ⟨unsent, ih⟩ := ih
  rw [absorbed_concat action run, documents_concat]
  exact ih.step (phased_of_run run) step

end Machine

end BulkIngest
