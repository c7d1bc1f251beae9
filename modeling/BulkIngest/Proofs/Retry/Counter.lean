import BulkIngest.Proofs.Retry.Reports

/-!
The attempts of a batch counted in 32 bits. As long as every attempt fails in a way worth another
one the counter goes through all numbers up to one more than the retries (`exists_due`), so it fits
if and only if that last number does, and then a batch that never lands is given up with exactly
that many attempts.
-/

namespace BulkIngest

namespace Submission

variable {policy : RetryPolicy} {batch : Batch} {turns : List Turn} {stopped : Bool}
    {s : Submission}

/-- An attempt that is due can be counted, and on the wire there is at least the one to be taken off
for the number of retries. -/
structure FitsCounter (s : Submission) : Prop where
  next : ∀ sent, s.send? = some sent → sent.attempts < UInt32.size
  present : s.attempts < UInt32.size
  retries : s.stage = .sending → 1 ≤ s.attempts

theorem refused_retried (batch : Batch) : batch.Retried (.failed (.connection "refused")) :=
  ⟨_, rfl, rfl⟩

/-- An attempt whose failure leaves retries is followed by a rest, and then the next one is due. -/
theorem Course.retry {e : TransportError} (course : Course policy batch turns false s)
    (due : s.stage = .queued ∨ ∃ e, s.stage = .rested e)
    (left : s.attempts < policy.maxRetries.toNat) (again : e.isRetryable = true) :
    ∃ s', Course policy batch (turns ++ [.send, .answer (.failed e), .wake]) false s' ∧
      s'.stage = .rested e ∧ s'.attempts = s.attempts + 1 := by
  have sent := course.send (send?_eq_some_iff.mpr ⟨due, rfl⟩)
  have heard := sent.answer (.failed e) (answer?_eq_some_iff.mpr ⟨rfl, rfl⟩)
  have rest : (conclude policy false { s with attempts := s.attempts + 1, stage := .sending }
      (.failed e)) = { s with
        attempts := s.attempts + 1
        delays := s.delays ++ [policy.delayFor s.attempts]
        stage := .resting e } := by
    simp [conclude, afterFailure, again, Nat.not_le.mpr left]
  rw [rest] at heard
  have woken := heard.wake (wake?_eq_some_iff.mpr ⟨e, rfl, rfl⟩)
  simp only [List.append_assoc, List.cons_append, List.nil_append] at woken
  exact ⟨_, woken, rfl, rfl⟩

/-- Up to the number of retries, any number of attempts may fail so that another one is due. -/
theorem exists_due (policy : RetryPolicy) (batch : Batch) (attempts : Nat)
    (left : attempts ≤ policy.maxRetries.toNat) :
    ∃ turns s, Course policy batch turns false s ∧ (∀ a ∈ answers turns, batch.Retried a) ∧
      (s.stage = .queued ∨ ∃ e, s.stage = .rested e) ∧ s.attempts = attempts := by
  induction attempts with
  | zero => exact ⟨[], .of batch, .start, by simp [answers], .inl rfl, rfl⟩
  | succ attempts ih =>
      obtain ⟨turns, s, course, retried, due, rfl⟩ := ih (by omega)
      obtain ⟨s', further, rested, counted⟩ :=
        course.retry (e := .connection "refused") due (by omega) rfl
      refine ⟨_, s', further, ?_, .inr ⟨_, rested⟩, counted⟩
      rw [answers, List.filterMap_append, List.forall_mem_append]
      refine ⟨retried, ?_⟩
      simpa [Turn.answer?] using refused_retried batch

theorem fitsCounter_of_course (course : Course policy batch turns stopped s)
    (fits : policy.maxRetries.toNat + 1 < UInt32.size) : s.FitsCounter := by
  obtain ⟨last, along⟩ := along_of_course course
  have budget := along.budget
  refine ⟨fun sent next => ?_, by omega, fun wire => ?_⟩
  · obtain ⟨last, further⟩ := along_of_course (course.send next)
    have budget := further.budget
    omega
  · have rests := along.rests
    simp only [Rests, wire] at rests
    omega

/-- The largest number of retries leaves an attempt that cannot be counted. -/
theorem exists_uncounted (policy : RetryPolicy) (batch : Batch)
    (many : UInt32.size ≤ policy.maxRetries.toNat + 1) :
    ∃ turns s, Course policy batch turns false s ∧ (∀ a ∈ answers turns, batch.Retried a) ∧
      ¬s.FitsCounter := by
  obtain ⟨turns, s, course, retried, due, counted⟩ :=
    exists_due policy batch policy.maxRetries.toNat (Nat.le_refl _)
  refine ⟨turns, s, course, retried, fun fits => ?_⟩
  have next := fits.next _ (send?_eq_some_iff.mpr ⟨due, rfl⟩)
  simp only [counted] at next
  omega

/-- Unless it is told to stop, a submission whose attempts all fail in a way worth another one gives
up when the retries are used up. -/
theorem exhausted_of_retried (course : Course policy batch turns stopped s) (going : .stop ∉ turns)
    (retried : ∀ a ∈ answers turns, batch.Retried a) (ended : s.isOver = true) :
    ∃ report cause, s.stage = .reported report ∧ report.attempts = policy.maxRetries.toNat + 1 ∧
      report.verdict = .exhausted (.retriesExhausted (policy.maxRetries.toNat + 1) cause) := by
  obtain ⟨last, along⟩ := along_of_course course
  obtain ⟨report, reported⟩ := along.reported ended fun message heard => by
    obtain ⟨e, read, -⟩ := retried _ (mem_answers.mpr heard)
    contradiction
  have accounts := along.accounts reported
  -- Whatever the verdict rests on is the last answer, a failure worth another attempt like all
  -- others.
  have last_retried : ∀ a, (answers turns).getLast? = some a → batch.Retried a := fun a final =>
    retried a (List.mem_of_getLast? final)
  cases verdict : report.verdict with
  | delivered =>
      obtain ⟨statuses, final, counted⟩ := accounts.delivered.mp verdict
      obtain ⟨e, read, -⟩ := last_retried _ final
      rw [Batch.reading_of_length counted] at read
      contradiction
  | abandoned => exact absurd (accounts.asked verdict) going
  | exhausted e =>
      obtain ⟨cause, read, rfl, spent⟩ := (accounts.exhausted e).mp verdict
      obtain ⟨a, final, lost⟩ := Option.map_eq_some_iff.mp read
      obtain ⟨e, again, retryable⟩ := last_retried a final
      obtain rfl : e = cause := by simpa [again] using lost
      have spent : report.attempts = policy.maxRetries.toNat + 1 := by simpa [retryable] using spent
      exact ⟨report, e, reported, spent, by rw [verdict, spent]⟩

/-- All attempts can be counted, in every course that the submission of a batch may take, if and
only if the number of retries is not the largest of 32 bits. Then the submission of a batch that
never lands goes on, for three turns for each attempt at most, until it gives up after one attempt
more than there are retries. -/
theorem counter_fits_iff (config : PipelineConfig) (batch : Batch) :
    ((∀ turns stopped s, Course config.retryPolicy batch turns stopped s → s.FitsCounter) ↔
      config.maxRetries.toNat + 1 < UInt32.size) ∧
    (config.maxRetries.toNat + 1 < UInt32.size →
      ∀ turns stopped s, Course config.retryPolicy batch turns stopped s → .stop ∉ turns →
        (∀ a ∈ answers turns, batch.Retried a) →
        strides turns ≤ 3 * (config.maxRetries.toNat + 1) ∧
        (s.isOver = false →
          (∀ a, ∃ s', Course config.retryPolicy batch (turns ++ [.answer a]) stopped s') ∨
          ∃ turn s', turn.isStop = false ∧ turn.answer? = none ∧
            Course config.retryPolicy batch (turns ++ [turn]) stopped s') ∧
        (s.isOver = true → ∃ report cause, s.stage = .reported report ∧
          report.attempts = config.maxRetries.toNat + 1 ∧
          report.verdict =
            .exhausted (.retriesExhausted (config.maxRetries.toNat + 1) cause))) := by
  refine ⟨⟨fun all => ?_, fun fits turns stopped s course => fitsCounter_of_course course fits⟩, ?_⟩
  · refine Nat.lt_of_not_le fun many => ?_
    obtain ⟨turns, s, course, -, uncounted⟩ := exists_uncounted config.retryPolicy batch many
    exact uncounted (all turns false s course)
  · intro _ turns stopped s course going retried
    obtain ⟨last, along⟩ := along_of_course course
    have pace := along.pace
    exact ⟨Nat.le_trans (Nat.le_add_right _ _) pace, course.continues,
      exhausted_of_retried course going retried⟩

/-- Accepted settings with the largest number of retries. -/
def tirelessConfig : PipelineConfig := { indexTarget := "idx", maxRetries := 4294967295 }

/-- After `2 ^ 32 - 1` failed attempts of theirs one more is due, and it cannot be counted. -/
theorem not_all_attempts_counted :
    ¬ ∀ (config : PipelineConfig), config.validate = .ok () → ∀ batch turns stopped s,
      Course config.retryPolicy batch turns stopped s → (∀ a ∈ answers turns, batch.Retried a) →
      s.FitsCounter := by
  intro all
  obtain ⟨turns, s, course, retried, uncounted⟩ :=
    exists_uncounted tirelessConfig.retryPolicy cutShortBatch (by decide)
  exact uncounted (all tirelessConfig rfl _ turns false s course retried)

end Submission

end BulkIngest
