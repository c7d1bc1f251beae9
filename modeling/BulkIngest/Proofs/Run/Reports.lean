import BulkIngest.Proofs.Retry.Reports
import BulkIngest.Proofs.Run.Phases

/-!
The submissions of a run take their courses, whatever the others do: to each of them the run is only
what answers its attempts and may stop its retries.
-/

namespace BulkIngest

namespace Submission

variable {config : PipelineConfig} {policy : RetryPolicy} {batch : Batch} {turns : List Turn}
  {before after stopped : Bool} {s s' : Submission} {action : Action}

/-- A stop may be taken note of at any later moment. -/
theorem Course.catchUp (course : Course policy batch turns before s)
    (later : before = true → after = true) : ∃ turns, Course policy batch turns after s := by
  cases before with
  | true => exact ⟨_, later rfl ▸ course⟩
  | false =>
      cases after with
      | false => exact ⟨_, course⟩
      | true => exact ⟨_, course.stop⟩

/-- The moves of a submission in a run are turns of its course. -/
theorem Course.move (course : Course config.retryPolicy batch turns stopped s)
    (moves : s.Moves config stopped action s') :
    ∃ turns, Course config.retryPolicy batch turns stopped s' := by
  cases moves with
  | send due => exact ⟨_, course.send (send?_eq_some_iff.mpr ⟨due, rfl⟩)⟩
  | answer a wire => exact ⟨_, course.answer a (answer?_eq_some_iff.mpr ⟨wire, rfl⟩)⟩
  | timeOut wire => exact ⟨_, course.answer _ (answer?_eq_some_iff.mpr ⟨wire, rfl⟩)⟩
  | wake e rest =>
      exact ⟨_, course.wake (wake?_eq_some_iff.mpr ⟨e, rest, rfl⟩)⟩
  | abandon e rest stopping =>
      subst stopping
      exact ⟨_, course.abandon (abandon?_eq_some_iff.mpr ⟨e, rest, rfl⟩)⟩

end Submission

namespace Machine

variable {config : PipelineConfig} {cancelled : Bool} {m m' : Machine} {action : Action}
  {actions : List Action} {settled settled' : List Submission}

/-- Every submission has taken one of its courses, as one whose retries are stopped when those of
the run are. -/
def OnCourse (m : Machine) (settled : List Submission) : Prop :=
  ∀ s ∈ settled ++ m.inFlight, ∃ turns,
    Submission.Course m.config.retryPolicy s.batch turns m.retriesStopped s

theorem onCourse_start : OnCourse (.start config cancelled) [] :=
  fun _ mem => by simp [start] at mem

theorem Step.retriesStopped_mono (step : m.Step action m') (stopped : m.retriesStopped = true) :
    m'.retriesStopped = true := by
  cases step with
  | cancel => simp [retriesStopped]
  | document d room going | ended room going =>
      rw [dispatch?_eq]
      exact stopped
  | failed _ _ _ | stop _ _ | advance _ _ | close _ => exact stopped
  | absorb found awaits ended =>
      simp only [retriesStopped, Machine.receive, Bool.or_eq_true] at stopped ⊢
      exact stopped.imp_right .inl

/-- Submissions that were there, those that moved and those that begin are on course afterwards. -/
theorem OnCourse.carry (h : OnCourse m settled) (step : m.Step action m')
    (origin : ∀ s ∈ settled' ++ m'.inFlight, s ∈ settled ++ m.inFlight ∨
      ∃ turns stopped, (stopped = true → m.retriesStopped = true) ∧
        Submission.Course m.config.retryPolicy s.batch turns stopped s) :
    OnCourse m' settled' := by
  intro s mem
  rw [step.config_eq]
  rcases origin s mem with here | ⟨turns, stopped, noted, course⟩
  · obtain ⟨turns, course⟩ := h s here
    exact course.catchUp step.retriesStopped_mono
  · exact course.catchUp fun stopping => step.retriesStopped_mono (noted stopping)

theorem OnCourse.step (h : OnCourse m settled) (step : m.Step action m') :
    OnCourse m' (settled ++ (m.absorbedBy action).toList) := by
  refine h.carry step fun s mem => ?_
  cases step with
  | cancel | failed _ _ _ | stop _ _ | close _ =>
      rw [append_absorbedBy rfl] at mem
      exact .inl mem
  | document d room going | ended room going =>
      rw [append_absorbedBy rfl, dispatch?_eq, ← List.append_assoc] at mem
      refine (List.mem_append.mp mem).imp_right fun new => ?_
      obtain ⟨batch, -, rfl⟩ := List.mem_map.mp new
      exact ⟨_, _, fun never => by contradiction, .start⟩
  | @advance _ old new found moves =>
      rw [append_absorbedBy (absorbedBy_of_moves moves)] at mem
      rcases List.mem_append.mp mem with mem | mem
      · exact .inl (List.mem_append_left _ mem)
      · obtain ⟨other, here, rfl⟩ := List.mem_map.mp mem
        split
        · obtain ⟨turns, course⟩ :=
            h old (List.mem_append_right _ (submission?_eq_some found).1)
          obtain ⟨turns, course⟩ := course.move moves
          exact .inr ⟨turns, _, id, moves.batch_eq ▸ course⟩
        · exact .inl (List.mem_append_right _ here)
  | absorb found awaits ended =>
      left
      simp only [absorbedBy, found, Option.toList_some, Machine.receive, List.mem_append,
        List.mem_singleton, List.mem_filter] at mem ⊢
      rcases mem with (mem | rfl) | mem
      · exact .inl mem
      · exact .inr (submission?_eq_some found).1
      · exact .inr mem.1

theorem onCourse_of_run (run : (Machine.start config cancelled).run? actions = some m) :
    OnCourse m ((Machine.start config cancelled).absorbed actions) := by
  refine run_induction
    (P := fun actions m => OnCourse m ((Machine.start config cancelled).absorbed actions))
    onCourse_start ?_ run
  intro actions m action m' run ih step
  rw [absorbed_concat action run]
  exact ih.step step

/-- What a submission of a run reports is exact, as if it had been alone. -/
theorem accounts_of_run (run : (Machine.start config cancelled).run? actions = some m)
    {s : Submission} (mem : s ∈ (Machine.start config cancelled).absorbed actions ++ m.inFlight)
    {report : SubmissionReport} (reported : s.stage = .reported report) :
    ∃ turns, Submission.Accounts config.retryPolicy s.batch turns report := by
  obtain ⟨turns, course⟩ := onCourse_of_run run s mem
  obtain ⟨last, along⟩ := Submission.along_of_course course
  exact ⟨turns, config_of_run run ▸ along.accounts reported⟩

/-- No batch is attempted more often than it may be. -/
theorem attempts_le_of_run (run : (Machine.start config cancelled).run? actions = some m)
    {s : Submission} (mem : s ∈ (Machine.start config cancelled).absorbed actions ++ m.inFlight) :
    s.attempts ≤ config.maxRetries.toNat + 1 := by
  obtain ⟨turns, course⟩ := onCourse_of_run run s mem
  obtain ⟨last, along⟩ := Submission.along_of_course course
  have budget := along.budget
  rwa [config_of_run run] at budget

end Machine

end BulkIngest
