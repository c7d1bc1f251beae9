import BulkIngest.Proofs.Batching.Handover
import BulkIngest.Proofs.Retry.Moves

/-!
The steps of a run as a relation with one rule for each kind of change, and the fields that a change
touches. `step_eq_some_iff`: the rules are exactly what the machine does.
-/

namespace BulkIngest

namespace Submission

/-- The outcomes that a submission brings when it comes in. -/
def outcomes (s : Submission) : List Outcome :=
  match s.stage with
  | .reported report => report.outcomes
  | .panicked message => s.batch.panicFailures message
  | _ => []

def retries (s : Submission) : Nat :=
  match s.stage with
  | .reported report => report.attempts - 1
  | _ => 0

def verdict? (s : Submission) : Option Verdict :=
  match s.stage with
  | .reported report => some report.verdict
  | _ => none

/-- The reason to stop that a submission brings when it comes in. -/
def halt? (s : Submission) : Option Halt :=
  match s.stage with
  | .reported report =>
    match report.verdict with
    | .exhausted e => some (.exhausted e)
    | .delivered | .abandoned => none
  | .panicked message => some (.panicked (.submissionPanicked (Machine.panicText message)))
  | _ => none

end Submission

namespace Machine

variable {m m' : Machine} {action : Action}

theorem dispatch?_eq (m : Machine) (batch : Option Batch) :
    m.dispatch? batch =
      { m with
        batches := m.batches + batch.toList.length
        inFlight := m.inFlight ++ batch.toList.map .of
        journal := { m.journal with dispatched := m.journal.dispatched ++ batch.toList } } := by
  cases batch with
  | none => simp [dispatch?]
  | some batch => rfl

/-- The requests that an action puts on the wire. -/
def callsOf (s : Submission) : Action → List SinkCall
  | .send sequence => [⟨sequence, s.attempts⟩]
  | _ => []

/-- A machine in which a submission has changed. -/
def change (m : Machine) (action : Action) (s : Submission) : Machine :=
  { m with
    inFlight := m.inFlight.map fun other => if other.sequence = s.sequence then s else other
    journal := { m.journal with calls := m.journal.calls ++ callsOf s action } }

/-- A machine that a submission has come into. -/
def receive (m : Machine) (s : Submission) : Machine :=
  { m with
    phase := if s.halt?.isSome then .draining else m.phase
    batchLost := m.batchLost || s.halt?.isSome
    inFlight := m.inFlight.filter (·.sequence ≠ s.sequence)
    tracker := m.tracker.record s.outcomes
    retries := m.retries + s.retries
    halt := m.halt.or s.halt?
    journal := { m.journal with recorded := m.journal.recorded ++ s.outcomes } }

theorem settle_eq (m : Machine) {s : Submission} (ended : s.isOver = true) :
    { m with inFlight := m.inFlight.filter (·.sequence ≠ s.sequence) }.settle s =
      some (m.receive s) := by
  cases stage : s.stage with
  | reported report =>
      cases verdict : report.verdict with
      | delivered | abandoned =>
          simp [settle, receive, record, Submission.halt?, Submission.outcomes,
            Submission.retries, stage, verdict]
      | exhausted e =>
          simp [settle, receive, record, loseBatch, haltWith, Submission.halt?,
            Submission.outcomes, Submission.retries, stage, verdict]
  | panicked message =>
      simp [settle, receive, record, loseBatch, haltWith, Submission.halt?,
        Submission.outcomes, Submission.retries, Batch.panicFailures, stage]
  | queued | sending | resting _ | rested _ => simp [Submission.isOver, stage] at ended

/-- The outcomes of items that were never sent. -/
def unsentOutcomesOf (halt : Option Halt) (items : List BulkItem) : List Outcome :=
  match halt with
  | some halt => (items.map (·.ref)).map
      (Outcome.failed halt.unsentKind "never sent, the run stopped first")
  | none => []

theorem unsentOutcomesOf_nil (halt : Option Halt) : unsentOutcomesOf halt [] = [] := by
  cases halt <;> rfl

/-- The outcomes of what the batcher still holds when a run closes. -/
def unsentOutcomes (m : Machine) : List Outcome := unsentOutcomesOf m.halt m.batcher.pending

/-- A machine that has let go of what was never sent. -/
def closed (m : Machine) : Machine :=
  { m with
    phase := .finished
    batcher := if m.halt.isSome then m.batcher.flush.2 else m.batcher
    tracker := if m.unsentOutcomes.isEmpty then m.tracker else m.tracker.record m.unsentOutcomes
    unsent := m.unsent + m.unsentOutcomes.length
    journal := { m.journal with recorded := m.journal.recorded ++ m.unsentOutcomes } }

theorem close_eq (m : Machine) : { m.accountUnsent with phase := .finished } = m.closed := by
  cases halt : m.halt with
  | none => simp [accountUnsent, closed, unsentOutcomes, unsentOutcomesOf, halt]
  | some reason =>
      cases pending : m.batcher.pending with
      | nil =>
          simp [accountUnsent, closed, unsentOutcomes, unsentOutcomesOf, halt, Batcher.flush,
            pending]
      | cons item items =>
          simp [accountUnsent, closed, unsentOutcomes, unsentOutcomesOf, record, halt,
            Batcher.flush, pending, Batch.refs]

inductive Step (m : Machine) : Action → Machine → Prop
  | cancel : Step m .cancel { m with cancelled := true }
  | document (d : Document) (room : m.canPull = true) (going : m.cancelled = false) :
      Step m (.pull (.document d))
        ({ m with
          position := m.position + 1
          batcher := (m.batcher.push (m.config.prepare m.position d)).2 }.dispatch?
          (m.batcher.push (m.config.prepare m.position d)).1)
  | ended (room : m.canPull = true) (going : m.cancelled = false) :
      Step m (.pull .finished)
        ({ m with phase := .draining, batcher := m.batcher.flush.2 }.dispatch? m.batcher.flush.1)
  | failed (reason : String) (room : m.canPull = true) (going : m.cancelled = false) :
      Step m (.pull (.failed reason)) (m.haltWith (.source (.source reason)))
  | stop (room : m.canPull = true) (asked : m.cancelled = true) :
      Step m .stop (m.haltWith .cancelled)
  | advance {action : Action} {s s' : Submission} (found : m.submission? s.sequence = some s)
      (moves : s.Moves m.config m.retriesStopped action s') : Step m action (m.change action s')
  | absorb {s : Submission} (found : m.submission? s.sequence = some s)
      (awaits : m.awaitsSubmission = true) (ended : s.isOver = true) :
      Step m (.absorb s.sequence) (m.receive s)
  | close (done : m.canClose = true) : Step m .close m.closed

theorem submission?_eq_some {sequence : Nat} {s : Submission}
    (h : m.submission? sequence = some s) : s ∈ m.inFlight ∧ s.sequence = sequence :=
  ⟨List.mem_of_find?_eq_some h, by simpa using List.find?_some h⟩

theorem update?_eq_some_iff {sequence : Nat} {change : Submission → Option Submission} :
    m.update? sequence change = some m' ↔
      ∃ s s', m.submission? sequence = some s ∧ change s = some s' ∧
        m' = { m with
          inFlight := m.inFlight.map fun s => if s.sequence = sequence then s' else s } := by
  simp only [update?]
  cases found : m.submission? sequence with
  | none => simp
  | some s =>
      simp only [Option.bind_eq_bind, Option.bind_some, Option.some.injEq]
      cases changed : change s with
      | none => simp [changed]
      | some s' => simp [changed, eq_comm]

theorem submission?_change {s' : Submission} {s : Submission} (action : Action)
    (found : m.submission? s'.sequence = some s) :
    (m.change action s').submission? s'.sequence = some s' := by
  have keeps : ((fun other : Submission => decide (other.sequence = s'.sequence)) ∘
      fun other => if other.sequence = s'.sequence then s' else other) =
      fun other => decide (other.sequence = s'.sequence) := by
    funext other
    simp only [Function.comp_apply]
    split <;> simp_all
  have same := (submission?_eq_some found).2
  simp only [submission?] at found
  simp only [submission?, change, List.find?_map, keeps, found, Option.map_some, same, if_true]

/-- An action that changes one submission, as the machine does it. -/
theorem update?_of_moves {s s' : Submission} {change : Submission → Option Submission}
    (found : m.submission? s.sequence = some s) (changed : change s = some s')
    (same : s'.sequence = s.sequence) :
    m.update? s.sequence change =
      some { m with
        inFlight := m.inFlight.map fun other =>
          if other.sequence = s'.sequence then s' else other } :=
  update?_eq_some_iff.mpr ⟨s, s', found, changed, by rw [same]⟩

theorem advance_of_update? {sequence : Nat} {change : Submission → Option Submission}
    (quiet : ∀ s, callsOf s action = [])
    (moves : ∀ s s', s.sequence = sequence → change s = some s' →
      s.Moves m.config m.retriesStopped action s')
    (h : m.update? sequence change = some m') : m.Step action m' := by
  obtain ⟨s, s', found, changed, rfl⟩ := update?_eq_some_iff.mp h
  obtain ⟨-, rfl⟩ := submission?_eq_some found
  have move := moves s s' rfl changed
  have step := Step.advance found move
  simpa only [Machine.change, quiet, List.append_nil, move.sequence_eq] using step

theorem step_of_step (h : m.step action = some m') : m.Step action m' := by
  cases action with
  | cancel =>
      simp only [step, Option.some.injEq] at h
      exact h ▸ .cancel
  | pull pull =>
      simp only [step, Option.ite_none_right_eq_some, Bool.and_eq_true, Bool.not_eq_true',
        Option.some.injEq] at h
      obtain ⟨⟨room, going⟩, rfl⟩ := h
      cases pull with
      | document d => exact .document d room going
      | finished => exact .ended room going
      | failed reason => exact .failed reason room going
  | stop =>
      simp only [step, Option.ite_none_right_eq_some, Bool.and_eq_true, Option.some.injEq] at h
      obtain ⟨⟨room, asked⟩, rfl⟩ := h
      exact .stop room asked
  | send sequence =>
      simp only [step, Option.map_eq_some_iff] at h
      obtain ⟨updated, h, rfl⟩ := h
      obtain ⟨s, s', found, changed, rfl⟩ := update?_eq_some_iff.mp h
      obtain ⟨-, rfl⟩ := submission?_eq_some found
      have move : s.Moves m.config m.retriesStopped (.send s.sequence) s' := by
        obtain ⟨due, rfl⟩ := Submission.send?_eq_some_iff.mp changed
        exact .send due
      have noted := submission?_change (.wake s.sequence) (move.sequence_eq ▸ found)
      simp only [change, callsOf, List.append_nil, move.sequence_eq] at noted
      simp only [noteCall, noted]
      have step := Step.advance found move
      simpa only [change, callsOf, move.sequence_eq] using step
  | answer sequence a =>
      refine advance_of_update? (fun _ => rfl) ?_ h
      intro s s' same changed
      obtain ⟨wire, rfl⟩ := Submission.answer?_eq_some_iff.mp changed
      exact same ▸ .answer a wire
  | timeOut sequence =>
      refine advance_of_update? (fun _ => rfl) ?_ h
      intro s s' same changed
      obtain ⟨wire, rfl⟩ := Submission.answer?_eq_some_iff.mp changed
      exact same ▸ .timeOut wire
  | wake sequence =>
      refine advance_of_update? (fun _ => rfl) ?_ h
      intro s s' same changed
      obtain ⟨last, rest, rfl⟩ := Submission.wake?_eq_some_iff.mp changed
      exact same ▸ .wake last rest
  | abandon sequence =>
      simp only [step, Option.ite_none_right_eq_some] at h
      refine advance_of_update? (fun _ => rfl) ?_ h.2
      intro s s' same changed
      obtain ⟨last, rest, rfl⟩ := Submission.abandon?_eq_some_iff.mp changed
      exact same ▸ .abandon last rest h.1
  | absorb sequence =>
      simp only [step, absorb?] at h
      cases found : m.submission? sequence with
      | none => simp [found] at h
      | some s =>
          obtain ⟨-, rfl⟩ := submission?_eq_some found
          simp only [found, Option.ite_none_right_eq_some] at h
          by_cases ended : s.isOver = true
          · rw [settle_eq m ended, Option.some.injEq] at h
            exact h.2 ▸ .absorb found h.1 ended
          · cases stage : s.stage <;> simp_all [Submission.isOver, settle]
  | close =>
      simp only [step, Option.ite_none_right_eq_some, Option.some.injEq] at h
      rw [close_eq] at h
      exact h.2 ▸ .close h.1

theorem Step.step_eq (h : m.Step action m') : m.step action = some m' := by
  cases h with
  | cancel => rfl
  | document d room going | ended room going | failed reason room going =>
      simp [step, room, going, take]
  | stop room asked => simp [step, room, asked]
  | advance found moves =>
      rename_i s s'
      have same := moves.sequence_eq
      cases moves with
      | send due =>
          have changed := Submission.send?_eq_some_iff.mpr ⟨due, rfl⟩
          have noted : (m.change (.wake s.sequence)
              { s with attempts := s.attempts + 1, stage := .sending }).submission? s.sequence =
              some { s with attempts := s.attempts + 1, stage := .sending } :=
            submission?_change _ found
          simp only [change, callsOf, List.append_nil, same] at noted
          simp [step, update?_of_moves found changed same, noteCall, noted, change, callsOf, same]
      | answer a wire =>
          have changed : s.answer? m.config.retryPolicy m.retriesStopped a =
              some (s.conclude m.config.retryPolicy m.retriesStopped a) :=
            Submission.answer?_eq_some_iff.mpr ⟨wire, rfl⟩
          simp [step, update?_of_moves found changed same, change, callsOf]
      | timeOut wire =>
          have changed : s.answer? m.config.retryPolicy m.retriesStopped
              (.failed (.timeout m.config.submitTimeout)) = some (s.conclude m.config.retryPolicy
                m.retriesStopped (.failed (.timeout m.config.submitTimeout))) :=
            Submission.answer?_eq_some_iff.mpr ⟨wire, rfl⟩
          simp [step, update?_of_moves found changed same, change, callsOf]
      | wake last rest =>
          have changed := Submission.wake?_eq_some_iff.mpr ⟨last, rest, rfl⟩
          simp [step, update?_of_moves found changed same, change, callsOf]
      | abandon last rest stopping =>
          have changed := Submission.abandon?_eq_some_iff.mpr ⟨last, rest, rfl⟩
          simp [step, stopping, update?_of_moves found changed same, change, callsOf]
  | absorb found awaits ended =>
      simp only [step, absorb?, found, awaits, if_true]
      exact settle_eq m ended
  | close done => simp [step, done, close_eq]

theorem step_eq_some_iff : m.step action = some m' ↔ m.Step action m' :=
  ⟨step_of_step, Step.step_eq⟩

end Machine

end BulkIngest
