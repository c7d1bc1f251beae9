import Mathlib.Tactic.DefEqTransformations
import BulkIngest.Proofs.Retry.Reports
import BulkIngest.Simulation.Solo

/-!
A submission alone on the clock takes one of its courses, whatever its sink does and whenever it is
cancelled, and comes to an end.
-/

namespace BulkIngest

namespace Simulation.Solo

variable {settings : SoloSettings} {batch : Batch} {solo : Solo}

@[simp]
theorem submission_pause (solo : Solo) (after : Nat) :
    (solo.pause after).submission = solo.submission := by
  simp only [pause, spend]
  split
  · split <;> rfl
  · rfl

/-- A request on the wire leaves the submission alone until it is answered. -/
theorem submission_call (settings : SoloSettings) (solo : Solo) :
    (solo.call settings).2.submission = solo.submission := by
  -- opened by itself, and with its deadline as a variable: a check of the cases would otherwise
  -- compute whether the deadline is zero, in as many steps as a millisecond has nanoseconds
  suffices opened : ∀ ask : SoloSettings → Solo → Answer × Solo, ask = call →
      (ask settings solo).2.submission = solo.submission from opened call rfl
  intro ask same
  delta call at same
  subst same
  beta_reduce
  obtain ⟨deadline, due⟩ : ∃ deadline, settings.timeout.millisecondsUp = deadline := ⟨_, rfl⟩
  rw [due]
  simp only [expire]
  split
  · exact submission_pause _ _
  · split
    · split
      · split <;> simp
      · simp only [submission_pause]
        split <;> simp
    · exact submission_pause _ _

theorem submission_request (solo : Solo) (settings : SoloSettings)
    (wire : solo.submission.stage = .sending) :
    ∃ (stopped : Bool) (a : Answer),
      solo.submission.answer? settings.policy stopped a = some (solo.request settings).submission ∧
      (solo.request settings).submission = solo.submission.conclude settings.policy stopped a := by
  have same := submission_call settings solo
  obtain ⟨⟨a, other⟩, called⟩ : ∃ called, solo.call settings = called := ⟨_, rfl⟩
  rw [called] at same
  have heard : solo.submission.answer? settings.policy (other.isStopped settings) a =
      some (solo.submission.conclude settings.policy (other.isStopped settings) a) :=
    Submission.answer?_eq_some_iff.mpr ⟨wire, rfl⟩
  have result : (solo.request settings).submission =
      solo.submission.conclude settings.policy (other.isStopped settings) a := by
    rw [request, called, conclude, same, heard]
  exact ⟨_, a, heard.trans (congrArg some result.symm), result⟩

/-- A rest ends, or is cut short. -/
theorem submission_rest (settings : SoloSettings) (solo : Solo) (delay : Nat) :
    (solo.rest settings delay).submission = (solo.submission.abandon?).getD solo.submission ∨
      (solo.rest settings delay).submission = (solo.submission.wake?).getD solo.submission := by
  simp only [rest]
  split
  · split
    · exact .inl rfl
    · exact .inr rfl
  · exact .inr rfl

/-- Where a submission alone may be between two rounds of its play: on one of its courses, not on
the wire, and with nothing behind it that stopped its retries as long as it goes on. -/
structure OnCourse (settings : SoloSettings) (batch : Batch) (s : Submission) : Prop where
  course : ∃ turns stopped, Submission.Course settings.policy batch turns stopped s ∧
    (s.isOver = false → stopped = false)
  quiet : s.stage ≠ .sending

theorem onCourse_of (settings : SoloSettings) (batch : Batch) :
    OnCourse settings batch (.of batch) :=
  ⟨⟨_, _, .start, fun _ => rfl⟩, by simp [Submission.of]⟩

variable {s s' : Submission}

theorem OnCourse.request (h : OnCourse settings batch solo.submission)
    (sent : solo.submission.send? = some s) :
    OnCourse settings batch ({ solo with submission := s }.request settings).submission ∧
      ({ solo with submission := s }.request settings).submission.fuel
        (settings.policy.maxRetries.toNat + 1) <
        solo.submission.fuel (settings.policy.maxRetries.toNat + 1) := by
  obtain ⟨turns, before, course, running⟩ := h.course
  obtain ⟨last, along⟩ := Submission.along_of_course course
  obtain ⟨due, rfl⟩ := Submission.send?_eq_some_iff.mp sent
  obtain rfl : before = false := running <| by
    rcases due with stage | ⟨e, stage⟩ <;> simp [Submission.isOver, stage]
  let asking : Solo := { solo with
    submission := { solo.submission with
      attempts := solo.submission.attempts + 1, stage := .sending } }
  obtain ⟨stopped, a, heard, result⟩ := asking.submission_request settings rfl
  refine ⟨⟨?_, result ▸ Submission.conclude_ne_sending _ _ _ _⟩, ?_⟩
  · cases stopped with
    | false => exact ⟨_, _, (course.send sent).answer a heard, fun _ => rfl⟩
    | true =>
        refine ⟨_, _, (course.send sent).stop.answer a heard, fun going => ?_⟩
        rw [result, Submission.isOver_conclude] at going
        contradiction
  · rw [result]
    exact Nat.lt_trans (Submission.fuel_conclude_lt _ _ _ rfl a) (along.stands.fuel_send_lt due)

theorem OnCourse.rest (h : OnCourse settings batch solo.submission) {e : TransportError}
    (rest : solo.submission.stage = .resting e) (delay : Nat) :
    OnCourse settings batch (solo.rest settings delay).submission ∧
      (solo.rest settings delay).submission.fuel (settings.policy.maxRetries.toNat + 1) <
        solo.submission.fuel (settings.policy.maxRetries.toNat + 1) := by
  obtain ⟨turns, stopped, course, running⟩ := h.course
  obtain ⟨last, along⟩ := Submission.along_of_course course
  have unstopped : stopped = false := running (by simp [Submission.isOver, rest])
  subst unstopped
  rcases submission_rest settings solo delay with result | result
  · have gaveUp : solo.submission.abandon? = some (solo.submission.abandonAfter e) :=
      Submission.abandon?_eq_some_iff.mpr ⟨e, .inl rest, rfl⟩
    rw [result, gaveUp, Option.getD_some]
    refine ⟨⟨⟨_, _, course.stop.abandon gaveUp, fun going => ?_⟩, ?_⟩,
      along.stands.fuel_abandon_lt (.inl rest)⟩
    · contradiction
    · simp [Submission.abandonAfter, Submission.report]
  · have woken := Submission.wake?_eq_some_iff.mpr ⟨e, rest, rfl⟩
    rw [result, woken, Option.getD_some]
    exact ⟨⟨⟨_, _, course.wake woken, fun _ => rfl⟩, by simp⟩, Submission.fuel_wake_lt _ rest⟩

/-- With enough rounds a play takes a submission to the end of one of its courses. -/
theorem OnCourse.play {fuel : Nat} (h : OnCourse settings batch solo.submission)
    (enough : solo.submission.fuel (settings.policy.maxRetries.toNat + 1) ≤ fuel) :
    OnCourse settings batch (solo.play settings fuel).submission ∧
      (solo.play settings fuel).submission.isOver = true := by
  induction fuel generalizing solo with
  | zero =>
      obtain ⟨turns, stopped, course, -⟩ := h.course
      obtain ⟨last, along⟩ := Submission.along_of_course course
      have fueled := along.stands.fuel_pos
      omega
  | succ fuel ih =>
      cases stage : solo.submission.stage with
      | sending => exact absurd stage h.quiet
      | reported _ | panicked _ =>
          simp only [Solo.play, stage]
          exact ⟨h, by simp [Submission.isOver, stage]⟩
      | resting e =>
          simp only [Solo.play, stage]
          obtain ⟨next, less⟩ := h.rest stage _
          exact ih next (by omega)
      | queued =>
          have sent := Submission.send?_eq_some_iff.mpr ⟨.inl stage, rfl⟩
          simp only [Solo.play, stage, sent]
          obtain ⟨next, less⟩ := h.request sent
          exact ih next (by omega)
      | rested e =>
          have sent := Submission.send?_eq_some_iff.mpr ⟨.inr ⟨e, stage⟩, rfl⟩
          simp only [Solo.play, stage, sent]
          obtain ⟨next, less⟩ := h.request sent
          exact ih next (by omega)

/-- Whatever its sink does and whenever it is cancelled, a submission alone comes to the end of one
of its courses, and its report is that of the course. -/
theorem play_reports (settings : SoloSettings) (batch : Batch) (cancelled : Bool) (sink : Sink)
    (fuel : Nat) (enough : 3 * (settings.policy.maxRetries.toNat + 1) ≤ fuel) :
    ((Solo.of batch cancelled sink).play settings fuel).submission.isOver = true ∧
    ∃ turns stopped, Submission.Course settings.policy batch turns stopped
        ((Solo.of batch cancelled sink).play settings fuel).submission ∧
      ∀ report, ((Solo.of batch cancelled sink).play settings fuel).submission.stage =
        .reported report → Submission.Accounts settings.policy batch turns report := by
  have start : OnCourse settings batch (Solo.of batch cancelled sink).submission :=
    onCourse_of settings batch
  obtain ⟨ends, done⟩ := start.play enough
  obtain ⟨turns, stopped, course, -⟩ := ends.course
  obtain ⟨last, along⟩ := Submission.along_of_course course
  exact ⟨done, turns, stopped, course, fun report => along.accounts⟩

end Simulation.Solo

end BulkIngest
