import BulkIngest.Proofs.Run.Answers

/-!
Phases and reasons to stop. A run pulls only while there is no reason to stop; from then on either
there is one or the batcher is empty; and a run that has finished has nothing out and nothing
pending. The reason is the first one that came up, and says in its error what kind of reason it is.
-/

namespace BulkIngest

/-- The error of a reason is of the kind of the reason. -/
def Halt.Fits : Halt → Prop
  | .exhausted e => ∃ attempts last, e = .retriesExhausted attempts last
  | .source e => ∃ text, e = .source text
  | .panicked e => ∃ text, e = .submissionPanicked text
  | .cancelled => True

theorem Submission.Stands.fits {policy : RetryPolicy} {stopped : Bool} {s : Submission}
    {last : Option (Option Answer)} (h : Stands policy stopped s last) :
    ∀ halt ∈ s.halt?, halt.Fits := by
  intro halt mem
  cases h with
  | queued fresh =>
      rw [fresh] at mem
      contradiction
  | resting e stage begun budget read again =>
      rcases stage with stage | stage <;> simp [halt?, stage] at mem
  | exhausted e stage begun read final =>
      simp only [halt?, stage, Option.mem_some_iff] at mem
      exact mem ▸ ⟨_, _, rfl⟩
  | panicked message stage begun read =>
      simp only [halt?, stage, Option.mem_some_iff] at mem
      exact mem ▸ ⟨_, rfl⟩
  | sending stage _ _ | delivered _ stage _ _ | abandoned _ stage _ _ _ _ _ =>
      simp [halt?, stage] at mem

namespace Machine

variable {config : PipelineConfig} {cancelled : Bool} {m m' : Machine} {action : Action}
  {actions : List Action} {settled : List Submission}

structure Phased (m : Machine) (settled : List Submission) : Prop where
  pulling : m.phase = .pulling → m.halt = none
  drained : m.phase ≠ .pulling → m.halt = none → m.batcher.pending = []
  finished : m.phase = .finished → m.inFlight = [] ∧ m.batcher.pending = []
  lost : m.batchLost = true → m.halt.isSome = true
  reasons : ∀ s ∈ settled, s.halt?.isSome = true → m.halt.isSome = true
  fits : ∀ halt ∈ m.halt, halt.Fits

theorem pulling_of_canPull (room : m.canPull = true) : m.phase = .pulling := by
  simp only [canPull, Bool.and_eq_true, decide_eq_true_eq] at room
  exact room.1

theorem phased_start : Phased (.start config cancelled) [] := by
  constructor <;> simp [start]

theorem Phased.haltWith (h : Phased m settled) (room : m.canPull = true) {halt : Halt}
    (fits : halt.Fits) : Phased (m.haltWith halt) settled := by
  have unhalted := h.pulling (pulling_of_canPull room)
  constructor <;> simp [Machine.haltWith, unhalted, fits]

theorem Phased.receive (h : Phased m settled) {s : Submission} (active : m.phase ≠ .finished)
    (fits : ∀ halt ∈ s.halt?, halt.Fits) : Phased (m.receive s) (settled ++ [s]) := by
  cases reason : s.halt? with
  | some halt =>
      constructor
      · simp [Machine.receive, reason]
      · simp [Machine.receive, reason]
      · simp [Machine.receive, reason]
      · exact fun _ => by simp [Machine.receive, reason]
      · exact fun _ _ _ => by simp [Machine.receive, reason]
      · intro first mem
        simp only [Machine.receive, reason, Option.mem_def, Option.or_eq_some_iff] at mem
        rcases mem with mem | ⟨-, mem⟩
        · exact h.fits first mem
        · exact fits first (reason ▸ mem)
  | none =>
      constructor
      · simpa [Machine.receive, reason] using h.pulling
      · simpa [Machine.receive, reason] using h.drained
      · intro finished
        simp only [Machine.receive, reason, Option.isSome_none, Bool.false_eq_true,
          if_false] at finished
        exact (active finished).elim
      · simpa [Machine.receive, reason] using h.lost
      · intro other mem
        simp only [Machine.receive, reason, Option.or_none]
        rcases List.mem_append.mp mem with mem | mem
        · exact h.reasons other mem
        · rw [List.mem_singleton.mp mem, reason]
          exact fun halted => by contradiction
      · simpa [Machine.receive, reason] using h.fits

theorem Phased.step (h : Phased m settled) (answered : Answered m actions settled)
    (step : m.Step action m') : Phased m' (settled ++ (m.absorbedBy action).toList) := by
  cases step with
  | cancel =>
      rw [append_absorbedBy rfl]
      exact ⟨h.pulling, h.drained, h.finished, h.lost, h.reasons, h.fits⟩
  | document d room going =>
      have pulling := pulling_of_canPull room
      rw [append_absorbedBy rfl, dispatch?_eq]
      exact ⟨h.pulling, fun other => (other pulling).elim,
        fun finished => by simp [pulling] at finished, h.lost, h.reasons, h.fits⟩
  | ended room going =>
      have unhalted := h.pulling (pulling_of_canPull room)
      rw [append_absorbedBy rfl, dispatch?_eq]
      exact ⟨fun _ => unhalted, fun _ _ => m.batcher.pending_flush,
        fun finished => by simp at finished, h.lost, h.reasons, h.fits⟩
  | failed reason room going =>
      rw [append_absorbedBy rfl]
      exact h.haltWith room ⟨reason, rfl⟩
  | stop room asked =>
      rw [append_absorbedBy rfl]
      exact h.haltWith room True.intro
  | advance found moves =>
      rw [append_absorbedBy (absorbedBy_of_moves moves)]
      refine ⟨h.pulling, h.drained, fun finished => ?_, h.lost, h.reasons, h.fits⟩
      obtain ⟨empty, pending⟩ := h.finished finished
      exact ⟨by simp [Machine.change, empty], pending⟩
  | absorb found awaits ended =>
      have mem := List.mem_append_right settled (submission?_eq_some found).1
      simpa only [absorbedBy, found, Option.toList_some] using
        h.receive (ne_finished_of_awaits awaits) (answered.stands _ mem).fits
  | close done =>
      simp only [canClose, Bool.and_eq_true, decide_eq_true_eq, List.isEmpty_iff] at done
      have pending : m.closed.batcher.pending = [] := by
        cases halt : m.halt with
        | none => simpa [closed, halt] using h.drained (by simp [done.1]) halt
        | some reason => simpa [closed, halt] using m.batcher.pending_flush
      rw [append_absorbedBy rfl]
      exact ⟨fun pulling => by contradiction, fun _ _ => pending, fun _ => ⟨done.2, pending⟩,
        h.lost, h.reasons, h.fits⟩

theorem phased_of_run (run : (Machine.start config cancelled).run? actions = some m) :
    Phased m ((Machine.start config cancelled).absorbed actions) := by
  refine run_induction
    (P := fun actions m => Phased m ((Machine.start config cancelled).absorbed actions))
    phased_start ?_ run
  intro actions m action m' run ih step
  rw [absorbed_concat action run]
  exact ih.step (answered_of_run run) step

end Machine

end BulkIngest
