import BulkIngest.Proofs.Retry.Moves

/-!
What a submission reports in the end. `Course` says what can happen to a submission from the
outside: attempts are answered, rests are over or cut short, and the retries are stopped at any
moment. `Along` is what is known of it on the way: how many attempts there were, that all answers
but the last one were failures worth another attempt, and which rests were begun.
-/

namespace BulkIngest

/-- The answer is a failure of the request after which it may be made again. -/
def Batch.Retried (batch : Batch) (a : Answer) : Prop :=
  ∃ e, batch.reading a = .lost e ∧ e.isRetryable = true

theorem Batch.reading_eq_delivered_iff {batch : Batch} {a : Answer} {outcomes : List Outcome} :
    batch.reading a = .delivered outcomes ↔
      ∃ statuses, a = .statuses statuses ∧ statuses.length = batch.size ∧
        outcomes = List.zipWith Outcome.ofStatus batch.refs statuses := by
  cases a with
  | failed e => simp [reading]
  | panicked message => simp [reading]
  | statuses statuses =>
      by_cases h : statuses.length = batch.size
      · simp [reading_of_length h, h, eq_comm]
      · simp [reading_of_ne h, h]

namespace Submission

/-- What can happen to a submission. After `stop` no rest begins any more. -/
inductive Turn
  | stop
  | send
  | answer (a : Answer)
  | wake
  | abandon

namespace Turn

def isStop : Turn → Bool
  | .stop => true
  | _ => false

def isSend : Turn → Bool
  | .send => true
  | _ => false

def answer? : Turn → Option Answer
  | .answer a => some a
  | _ => none

end Turn

/-- The answers to the attempts, in order. -/
def answers (turns : List Turn) : List Answer := turns.filterMap Turn.answer?

/-- How many requests were made. -/
def sends (turns : List Turn) : Nat := turns.countP (·.isSend)

/-- How many turns were the submission's own. -/
def strides (turns : List Turn) : Nat := turns.countP (!·.isStop)

/-- The courses that the submission of a batch may take, and whether its retries have been
stopped. -/
inductive Course (policy : RetryPolicy) (batch : Batch) : List Turn → Bool → Submission → Prop
  | start : Course policy batch [] false (.of batch)
  | stop {turns : List Turn} {stopped : Bool} {s : Submission}
      (course : Course policy batch turns stopped s) : Course policy batch (turns ++ [.stop]) true s
  | send {turns : List Turn} {stopped : Bool} {s s' : Submission}
      (course : Course policy batch turns stopped s) (sent : s.send? = some s') :
      Course policy batch (turns ++ [.send]) stopped s'
  | answer {turns : List Turn} {stopped : Bool} {s s' : Submission} (a : Answer)
      (course : Course policy batch turns stopped s)
      (heard : s.answer? policy stopped a = some s') :
      Course policy batch (turns ++ [.answer a]) stopped s'
  | wake {turns : List Turn} {stopped : Bool} {s s' : Submission}
      (course : Course policy batch turns stopped s) (woken : s.wake? = some s') :
      Course policy batch (turns ++ [.wake]) stopped s'
  | abandon {turns : List Turn} {s s' : Submission} (course : Course policy batch turns true s)
      (gaveUp : s.abandon? = some s') : Course policy batch (turns ++ [.abandon]) true s'

variable {policy : RetryPolicy} {batch : Batch} {turns : List Turn} {stopped : Bool}
  {s s' : Submission} {a : Answer}

@[simp]
theorem answers_concat (turns : List Turn) (turn : Turn) :
    answers (turns ++ [turn]) = answers turns ++ turn.answer?.toList := by
  cases turn <;> simp [answers, Turn.answer?]

@[simp]
theorem sends_concat (turns : List Turn) (turn : Turn) :
    sends (turns ++ [turn]) = sends turns + (if turn.isSend then 1 else 0) := by
  simp [sends, List.countP_append, List.countP_singleton]

theorem strides_concat_le {fuel fuel' bound : Nat} (turns : List Turn) (turn : Turn)
    (pace : strides turns + fuel ≤ bound) (less : fuel' < fuel) :
    strides (turns ++ [turn]) + fuel' ≤ bound := by
  have one : [turn].countP (!·.isStop) ≤ 1 := List.countP_le_length
  rw [strides] at pace
  rw [strides, List.countP_append]
  omega

/-- What the answers heard say about the attempts, when the last call for the batch was answered by
the index: all answers but that one made another attempt necessary. -/
inductive Heard (batch : Batch) (heard : List Answer) (attempts : Nat) :
    Option (Option Answer) → Prop
  | silent (silent : heard = []) (fresh : attempts = 0) : Heard batch heard attempts none
  | waiting (count : heard.length + 1 = attempts) (retried : ∀ a ∈ heard, batch.Retried a) :
      Heard batch heard attempts (some none)
  | answered {earlier : List Answer} {a : Answer} (last : heard = earlier ++ [a])
      (count : heard.length = attempts) (retried : ∀ b ∈ earlier, batch.Retried b) :
      Heard batch heard attempts (some (some a))

/-- How many rests were begun; `cut` says that one of them was cut short. -/
def Rests (cut : Prop) (s : Submission) : Prop :=
  match s.stage with
  | .queued | .resting _ | .rested _ => s.delays.length = s.attempts ∧ ¬cut
  | .sending | .panicked _ => s.delays.length + 1 = s.attempts ∧ ¬cut
  | .reported report =>
    (¬cut → s.delays.length + 1 = s.attempts) ∧
      (cut → s.delays.length = s.attempts ∧ report.verdict = .abandoned)

/-- What is known of a submission on the way. -/
structure Along (policy : RetryPolicy) (batch : Batch) (turns : List Turn) (stopped : Bool)
    (s : Submission) (last : Option (Option Answer)) : Prop where
  batch_eq : s.batch = batch
  sends : s.attempts = sends turns
  budget : s.attempts ≤ policy.maxRetries.toNat + 1
  pace : strides turns + s.fuel (policy.maxRetries.toNat + 1) ≤ 3 * (policy.maxRetries.toNat + 1)
  asked : stopped = true → .stop ∈ turns
  delays : s.delays = (List.range s.delays.length).map policy.delayFor
  stands : Stands policy stopped s last
  heard : Heard batch (answers turns) s.attempts last
  rests : s.Rests (.abandon ∈ turns)

variable {heard : List Answer} {cut : Prop} {attempts : Nat} {last : Option (Option Answer)}

theorem Heard.send (h : Heard s.batch heard s.attempts last) (stands : Stands policy stopped s last)
    (due : s.stage = .queued ∨ ∃ e, s.stage = .rested e) :
    Heard s.batch heard (s.attempts + 1) (some none) := by
  cases h with
  | silent silent fresh => exact .waiting (by simp [silent, fresh]) (by simp [silent])
  | waiting count retried =>
      cases stands with
      | sending stage _ _ => simp [stage] at due
  | answered last count retried =>
      cases stands with
      | resting e stage begun budget read again =>
          refine .waiting (by rw [count]) ?_
          rw [last, List.forall_mem_append, List.forall_mem_singleton]
          exact ⟨retried, e, read, again⟩
      | delivered _ stage _ _ | exhausted _ stage _ _ _ | abandoned _ stage _ _ _ _ _
      | panicked _ stage _ _ => simp [stage] at due

theorem Heard.answer (h : Heard s.batch heard s.attempts last)
    (stands : Stands policy stopped s last) (wire : s.stage = .sending) (a : Answer) :
    Heard s.batch (heard ++ [a]) s.attempts (some (some a)) := by
  cases h with
  | waiting count retried => exact .answered rfl (by simpa using count) retried
  | silent _ _ =>
      cases stands with
      | queued fresh =>
          rw [fresh] at wire
          contradiction
  | answered _ _ _ => cases stands <;> simp_all

/-- After an attempt there is nothing more to do, or a rest begins. -/
theorem conclude_cases (policy : RetryPolicy) (stopped : Bool) (s : Submission) (a : Answer) :
    ((s.conclude policy stopped a).isOver = true ∧
        (s.conclude policy stopped a).delays = s.delays) ∨
      ∃ e, (s.conclude policy stopped a).stage = .resting e ∧
        (s.conclude policy stopped a).delays =
          s.delays ++ [policy.delayFor (s.attempts - 1)] := by
  rw [conclude]
  cases s.batch.reading a with
  | delivered _ | broken _ => exact .inl ⟨rfl, rfl⟩
  | lost e =>
      simp only [afterFailure]
      split
      · exact .inl ⟨rfl, rfl⟩
      · split
        · exact .inl ⟨rfl, rfl⟩
        · exact .inr ⟨e, rfl, rfl⟩

theorem conclude_ne_sending (policy : RetryPolicy) (stopped : Bool) (s : Submission) (a : Answer) :
    (s.conclude policy stopped a).stage ≠ .sending := by
  intro wire
  rcases conclude_cases policy stopped s a with ⟨ended, -⟩ | ⟨e, stage, -⟩
  · simp [isOver, wire] at ended
  · simp [stage] at wire

theorem rests_conclude (rests : s.Rests cut) (wire : s.stage = .sending) (a : Answer) :
    (s.conclude policy stopped a).Rests cut := by
  simp only [Rests, wire] at rests
  obtain ⟨count, uncut⟩ := rests
  have attempts := attempts_conclude policy stopped s a
  rcases conclude_cases policy stopped s a with ⟨ended, delays⟩ | ⟨e, stage, delays⟩
  · cases stage : (s.conclude policy stopped a).stage with
    | reported report => simp [Rests, stage, delays, attempts, count, uncut]
    | panicked message => simp [Rests, stage, delays, attempts, count, uncut]
    | queued | sending | resting _ | rested _ => simp [isOver, stage] at ended
  · simp [Rests, stage, delays, attempts, count, uncut]

theorem delays_conclude (rests : s.Rests cut) (wire : s.stage = .sending)
    (delays : s.delays = (List.range s.delays.length).map policy.delayFor) (a : Answer) :
    (s.conclude policy stopped a).delays =
      (List.range (s.conclude policy stopped a).delays.length).map policy.delayFor := by
  simp only [Rests, wire] at rests
  rcases conclude_cases policy stopped s a with ⟨ended, same⟩ | ⟨e, stage, more⟩
  · rw [same]
    exact delays
  · have retries : s.attempts - 1 = s.delays.length := by omega
    rw [more, List.length_append, List.length_singleton, List.range_succ, List.map_append,
      ← delays, retries]
    rfl

theorem along_start (policy : RetryPolicy) (batch : Batch) :
    Along policy batch [] false (.of batch) none where
  batch_eq := rfl
  sends := rfl
  budget := Nat.zero_le _
  pace := Nat.le_of_eq (Nat.zero_add _)
  asked := by simp
  delays := rfl
  stands := .queued rfl
  heard := .silent rfl rfl
  rests := ⟨rfl, by simp⟩

namespace Along

theorem stop (h : Along policy batch turns stopped s last) :
    Along policy batch (turns ++ [.stop]) true s last where
  batch_eq := h.batch_eq
  sends := by simpa [Turn.isSend] using h.sends
  budget := h.budget
  pace := by simpa [strides, Turn.isStop] using h.pace
  asked := by simp
  delays := h.delays
  stands := h.stands.mono fun _ => rfl
  heard := by simpa [Turn.answer?] using h.heard
  rests := by simpa using h.rests

theorem send (h : Along policy batch turns stopped s last)
    (due : s.stage = .queued ∨ ∃ e, s.stage = .rested e) :
    Along policy batch (turns ++ [.send]) stopped
      { s with attempts := s.attempts + 1, stage := .sending } (some none) where
  batch_eq := h.batch_eq
  sends := by simp [Turn.isSend, h.sends]
  budget := by
    cases h.stands.send due with
    | sending _ _ budget => exact budget
  pace := strides_concat_le turns _ h.pace (h.stands.fuel_send_lt due)
  asked := fun stopping => List.mem_append_left _ (h.asked stopping)
  delays := h.delays
  stands := h.stands.send due
  heard := by
    have heard := h.heard
    rw [← h.batch_eq] at heard ⊢
    simpa [Turn.answer?] using heard.send h.stands due
  rests := by
    have rests := h.rests
    rcases due with due | ⟨e, due⟩ <;> simpa [Rests, due] using rests

theorem answer (h : Along policy batch turns stopped s last) (wire : s.stage = .sending)
    (a : Answer) :
    Along policy batch (turns ++ [.answer a]) stopped (s.conclude policy stopped a)
      (some (some a)) where
  batch_eq := (batch_conclude policy stopped s a).trans h.batch_eq
  sends := by simpa [Turn.isSend, attempts_conclude] using h.sends
  budget := by
    rw [attempts_conclude]
    exact h.budget
  pace := strides_concat_le turns _ h.pace (fuel_conclude_lt policy stopped _ wire a)
  asked := fun stopping => List.mem_append_left _ (h.asked stopping)
  delays := delays_conclude h.rests wire h.delays a
  stands := h.stands.answer wire a
  heard := by
    have heard := h.heard
    rw [← h.batch_eq] at heard ⊢
    simpa [Turn.answer?, attempts_conclude] using heard.answer h.stands wire a
  rests := by simpa using rests_conclude h.rests wire a

theorem wake (h : Along policy batch turns stopped s last) {e : TransportError}
    (rest : s.stage = .resting e) :
    Along policy batch (turns ++ [.wake]) stopped { s with stage := .rested e } last where
  batch_eq := h.batch_eq
  sends := by simpa [Turn.isSend] using h.sends
  budget := h.budget
  pace := strides_concat_le turns _ h.pace (fuel_wake_lt _ rest)
  asked := fun stopping => List.mem_append_left _ (h.asked stopping)
  delays := h.delays
  stands := h.stands.wake rest
  heard := by simpa [Turn.answer?] using h.heard
  rests := by
    have rests := h.rests
    simpa [Rests, rest] using rests

theorem abandon (h : Along policy batch turns stopped s last) {e : TransportError}
    (rest : s.stage = .resting e ∨ s.stage = .rested e) (stopping : stopped = true) :
    Along policy batch (turns ++ [.abandon]) stopped (s.abandonAfter e) last where
  batch_eq := h.batch_eq
  sends := h.sends.trans (by simp [Turn.isSend])
  budget := h.budget
  pace := strides_concat_le turns _ h.pace (h.stands.fuel_abandon_lt rest)
  asked := fun stopping => List.mem_append_left _ (h.asked stopping)
  delays := h.delays
  stands := h.stands.abandon rest stopping
  heard := by
    change Heard batch _ s.attempts last
    simpa [Turn.answer?] using h.heard
  rests := by
    have rests := h.rests
    rcases rest with rest | rest <;>
    · simp only [Rests, rest] at rests
      exact ⟨fun uncut => absurd (List.mem_append_right _ (List.mem_singleton.mpr rfl)) uncut,
        fun _ => ⟨rests.1, rfl⟩⟩

end Along

theorem along_of_course (course : Course policy batch turns stopped s) :
    ∃ last, Along policy batch turns stopped s last := by
  induction course with
  | start => exact ⟨_, along_start policy batch⟩
  | stop course ih =>
      obtain ⟨last, along⟩ := ih
      exact ⟨_, along.stop⟩
  | send course sent ih =>
      obtain ⟨last, along⟩ := ih
      obtain ⟨due, rfl⟩ := send?_eq_some_iff.mp sent
      exact ⟨_, along.send due⟩
  | answer a course heard ih =>
      obtain ⟨last, along⟩ := ih
      obtain ⟨wire, rfl⟩ := answer?_eq_some_iff.mp heard
      exact ⟨_, along.answer wire a⟩
  | wake course woken ih =>
      obtain ⟨last, along⟩ := ih
      obtain ⟨e, rest, rfl⟩ := wake?_eq_some_iff.mp woken
      exact ⟨_, along.wake rest⟩
  | abandon course gaveUp ih =>
      obtain ⟨last, along⟩ := ih
      obtain ⟨e, rest, rfl⟩ := abandon?_eq_some_iff.mp gaveUp
      exact ⟨_, along.abandon rest rfl⟩

/-- What the last answer says about the batch. -/
def lastReading (batch : Batch) (turns : List Turn) : Option Reading :=
  (answers turns).getLast?.map batch.reading

/-- What a report tells of the turns that led to it. -/
structure Accounts (policy : RetryPolicy) (batch : Batch)
    (turns : List Turn) (report : SubmissionReport) : Prop where
  calls : report.attempts = sends turns
  heard : report.attempts = (answers turns).length
  begun : 1 ≤ report.attempts
  budget : report.attempts ≤ policy.maxRetries.toNat + 1
  retried : ∀ a ∈ (answers turns).dropLast, batch.Retried a
  delivered : report.verdict = .delivered ↔
    ∃ statuses, (answers turns).getLast? = some (.statuses statuses) ∧
      statuses.length = batch.size
  exhausted : ∀ e, report.verdict = .exhausted e ↔
    ∃ cause, lastReading batch turns = some (.lost cause) ∧
      e = .retriesExhausted report.attempts cause ∧
      (report.attempts = policy.maxRetries.toNat + 1 ∨ cause.isRetryable = false)
  abandoned : report.verdict = .abandoned ↔
    ∃ cause, lastReading batch turns = some (.lost cause) ∧
      report.attempts ≤ policy.maxRetries.toNat ∧ cause.isRetryable = true
  asked : report.verdict = .abandoned → .stop ∈ turns
  refs : report.outcomes.map (·.ref) = batch.refs
  accepted : ∀ statuses, (answers turns).getLast? = some (.statuses statuses) →
    statuses.length = batch.size →
      report.outcomes = List.zipWith Outcome.ofStatus batch.refs statuses
  lost : ∀ cause, lastReading batch turns = some (.lost cause) →
    report.outcomes = batch.refs.map (Outcome.failed .transport cause.message)
  delays : report.delays = (List.range report.delays.length).map policy.delayFor
  uncut : .abandon ∉ turns → report.delays.length + 1 = report.attempts
  cut : .abandon ∈ turns → report.delays.length = report.attempts ∧ report.verdict = .abandoned

/-- The verdict on a batch after an attempt that nothing follows any more. -/
def verdictOf (policy : RetryPolicy) (attempts : Nat) : Reading → Verdict
  | .delivered _ => .delivered
  | .lost e =>
    if policy.maxRetries.toNat < attempts ∨ e.isRetryable = false then
      .exhausted (.retriesExhausted attempts e)
    else .abandoned
  | .broken _ => .abandoned

theorem verdictOf_eq_delivered_iff {reading : Reading} :
    verdictOf policy attempts reading = .delivered ↔ ∃ outcomes, reading = .delivered outcomes := by
  cases reading with
  | delivered outcomes => simp [verdictOf]
  | broken message => simp [verdictOf]
  | lost e => by_cases final : policy.maxRetries.toNat < attempts ∨ e.isRetryable = false <;>
      simp [verdictOf, final]

theorem verdictOf_eq_exhausted_iff {reading : Reading} {e : PipelineError} :
    verdictOf policy attempts reading = .exhausted e ↔
      ∃ cause, reading = .lost cause ∧ e = .retriesExhausted attempts cause ∧
        (policy.maxRetries.toNat < attempts ∨ cause.isRetryable = false) := by
  cases reading with
  | delivered outcomes => simp [verdictOf]
  | broken message => simp [verdictOf]
  | lost cause =>
      by_cases final : policy.maxRetries.toNat < attempts ∨ cause.isRetryable = false
      · simp [verdictOf, final, eq_comm (b := e)]
      · simp [verdictOf, final]

theorem verdictOf_eq_abandoned_iff {reading : Reading}
    (sound : ∀ message, reading ≠ .broken message) :
    verdictOf policy attempts reading = .abandoned ↔
      ∃ cause, reading = .lost cause ∧ attempts ≤ policy.maxRetries.toNat ∧
        cause.isRetryable = true := by
  cases reading with
  | delivered outcomes => simp [verdictOf]
  | broken message => exact absurd rfl (sound message)
  | lost cause =>
      by_cases final : policy.maxRetries.toNat < attempts ∨ cause.isRetryable = false
      · have done : ¬(attempts ≤ policy.maxRetries.toNat ∧ cause.isRetryable = true) := by
          rcases final with final | final
          · omega
          · simp [final]
        simp [verdictOf, final, done]
      · have left : attempts ≤ policy.maxRetries.toNat ∧ cause.isRetryable = true := by
          simpa using final
        simp [verdictOf, left]

/-- A report is determined by the last answer, the number of attempts and the rests that were
begun. -/
theorem Stands.report_eq (h : Stands policy stopped s last) {report : SubmissionReport}
    (reported : s.stage = .reported report) :
    ∃ a, last = some (some a) ∧ 1 ≤ s.attempts ∧
      (∀ message, s.batch.reading a ≠ .broken message) ∧
      (report.verdict = .abandoned → stopped = true) ∧
      report = ⟨s.batch.outcomesOf (s.batch.reading a), s.attempts, s.delays,
        verdictOf policy s.attempts (s.batch.reading a)⟩ := by
  cases h with
  | queued fresh =>
      rw [fresh] at reported
      contradiction
  | sending stage begun budget => simp [stage] at reported
  | resting e stage begun budget read again => simp [reported] at stage
  | panicked message stage begun read => simp [stage] at reported
  | delivered outcomes stage begun read =>
      rw [stage, Stage.reported.injEq] at reported
      refine ⟨_, rfl, begun, by simp [read], by simp [← reported], ?_⟩
      rw [← reported, read]
      rfl
  | exhausted e stage begun read final =>
      rw [stage, Stage.reported.injEq] at reported
      refine ⟨_, rfl, begun, by simp [read], by simp [← reported], ?_⟩
      rw [← reported, read, verdictOf, if_pos final]
      rfl
  | abandoned e stage begun budget read again stopping =>
      have open_ : ¬(policy.maxRetries.toNat < s.attempts ∨ e.isRetryable = false) := by
        simp only [again, Bool.true_eq_false, or_false]
        omega
      rw [stage, Stage.reported.injEq] at reported
      refine ⟨_, rfl, begun, by simp [read], fun _ => stopping, ?_⟩
      rw [← reported, read, verdictOf, if_neg open_]
      rfl

theorem Along.accounts (h : Along policy batch turns stopped s last) {report : SubmissionReport}
    (reported : s.stage = .reported report) : Accounts policy batch turns report := by
  obtain ⟨a, rfl, begun, sound, asked, same⟩ := h.stands.report_eq reported
  have rests := h.rests
  simp only [Rests, reported] at rests
  rw [h.batch_eq] at same sound
  obtain ⟨earlier, last, count, retried⟩ : ∃ earlier, answers turns = earlier ++ [a] ∧
      (answers turns).length = s.attempts ∧ ∀ b ∈ earlier, batch.Retried b := by
    cases h.heard with
    | answered last count retried => exact ⟨_, last, count, retried⟩
  have final : (answers turns).getLast? = some a := by simp [last]
  have read : lastReading batch turns = some (batch.reading a) := by rw [lastReading, final]; rfl
  have attempts : report.attempts = s.attempts := by rw [same]
  have delays : report.delays = s.delays := by rw [same]
  have outcomes : report.outcomes = batch.outcomesOf (batch.reading a) := by rw [same]
  have verdict : report.verdict = verdictOf policy s.attempts (batch.reading a) := by rw [same]
  have budget := h.budget
  exact {
    calls := attempts.trans h.sends
    heard := attempts.trans count.symm
    begun := attempts ▸ begun
    budget := attempts ▸ h.budget
    retried := by
      rw [last, List.dropLast_concat]
      exact retried
    delivered := by
      simp only [verdict, final, verdictOf_eq_delivered_iff, Batch.reading_eq_delivered_iff,
        Option.some.injEq]
      exact ⟨fun ⟨_, statuses, heard, counted, _⟩ => ⟨statuses, heard, counted⟩,
        fun ⟨statuses, heard, counted⟩ => ⟨_, statuses, heard, counted, rfl⟩⟩
    exhausted := by
      have spent : s.attempts = policy.maxRetries.toNat + 1 ↔
          policy.maxRetries.toNat < s.attempts := by omega
      simp only [verdict, read, verdictOf_eq_exhausted_iff, attempts, spent, Option.some.injEq,
        implies_true]
    abandoned := by
      simp only [verdict, read, verdictOf_eq_abandoned_iff sound, attempts, Option.some.injEq]
    asked := fun abandoned => h.asked (asked abandoned)
    refs := by
      rw [outcomes]
      exact batch.refs_outcomesOf a
    accepted := by
      intro statuses heard counted
      rw [final, Option.some.injEq] at heard
      rw [outcomes, heard, Batch.reading_of_length counted]
      rfl
    lost := by
      intro cause lost
      rw [read, Option.some.injEq] at lost
      rw [outcomes, lost]
      rfl
    delays := by
      rw [delays]
      exact h.delays
    uncut := by
      rw [delays, attempts]
      exact rests.1
    cut := by
      rw [delays, attempts]
      exact rests.2 }

theorem mem_answers {a : Answer} : a ∈ answers turns ↔ .answer a ∈ turns := by
  rw [answers, List.mem_filterMap]
  constructor
  · rintro ⟨turn, mem, heard⟩
    cases turn with
    | answer b => rwa [← Option.some.inj heard]
    | stop | send | wake | abandon => contradiction
  · exact fun mem => ⟨.answer a, mem, rfl⟩

/-- Unless the sink broke down a submission that is over has a report. -/
theorem Along.reported (h : Along policy batch turns stopped s last) (ended : s.isOver = true)
    (sound : ∀ message, .answer (.panicked message) ∉ turns) :
    ∃ report, s.stage = .reported report := by
  cases stage : s.stage with
  | reported report => exact ⟨report, rfl⟩
  | queued | sending | resting _ | rested _ => simp [isOver, stage] at ended
  | panicked message =>
      have broken : ∃ a, last = some (some a) ∧ s.batch.reading a = .broken message := by
        cases h.stands with
        | queued fresh =>
            rw [fresh] at stage
            contradiction
        | resting e rest _ _ _ _ => simp [stage] at rest
        | panicked message' stage' begun read =>
            obtain rfl : message' = message := by simpa [stage] using stage'.symm
            exact ⟨_, rfl, read⟩
        | _ => simp_all
      obtain ⟨a, rfl, read⟩ := broken
      have heard : a ∈ answers turns := by
        cases h.heard with
        | answered last _ _ => simp [last]
      cases a with
      | panicked message => exact absurd (mem_answers.mp heard) (sound message)
      | failed e => contradiction
      | statuses statuses =>
          by_cases counted : statuses.length = s.batch.size
          · simp [Batch.reading_of_length counted] at read
          · simp [Batch.reading_of_ne counted] at read

/-- A submission that is not over waits for an answer, whichever comes, or takes a turn of its
own. -/
theorem Course.continues (course : Course policy batch turns stopped s) (going : s.isOver = false) :
    (∀ a, ∃ s', Course policy batch (turns ++ [.answer a]) stopped s') ∨
      ∃ turn s', turn.isStop = false ∧ turn.answer? = none ∧
        Course policy batch (turns ++ [turn]) stopped s' := by
  cases stage : s.stage with
  | sending => exact .inl fun a => ⟨_, course.answer a (answer?_eq_some_iff.mpr ⟨stage, rfl⟩)⟩
  | queued =>
      exact .inr ⟨.send, _, rfl, rfl, course.send (send?_eq_some_iff.mpr ⟨.inl stage, rfl⟩)⟩
  | rested e =>
      exact .inr ⟨.send, _, rfl, rfl, course.send (send?_eq_some_iff.mpr ⟨.inr ⟨e, stage⟩, rfl⟩)⟩
  | resting e =>
      cases stopped with
      | false =>
          exact .inr ⟨.wake, _, rfl, rfl, course.wake (wake?_eq_some_iff.mpr ⟨e, stage, rfl⟩)⟩
      | true =>
          exact .inr ⟨.abandon, _, rfl, rfl,
            course.abandon (abandon?_eq_some_iff.mpr ⟨e, .inl stage, rfl⟩)⟩
  | reported report => simp [isOver, stage] at going
  | panicked message => simp [isOver, stage] at going

/-- Whatever answers its attempts get and whenever its retries are stopped, a submission comes to a
report unless the sink breaks down, after three turns for each attempt at most, and the report is
exact: it counts the requests, all answers but the last were failures worth another attempt, and the
verdict, the outcomes and the rests are those that the last answer and the stop call for. -/
theorem report_exact (policy : RetryPolicy) (fits : policy.maxRetries.toNat + 1 < UInt32.size)
    (batch : Batch) (turns : List Turn) (stopped : Bool) (s : Submission)
    (course : Course policy batch turns stopped s) :
    strides turns ≤ 3 * (policy.maxRetries.toNat + 1) ∧
    s.attempts < UInt32.size ∧
    (s.isOver = false → (∀ a, ∃ s', Course policy batch (turns ++ [.answer a]) stopped s') ∨
      ∃ turn s', turn.isStop = false ∧ turn.answer? = none ∧
        Course policy batch (turns ++ [turn]) stopped s') ∧
    (s.isOver = true → (∀ message, .answer (.panicked message) ∉ turns) →
      ∃ report, s.stage = .reported report) ∧
    ∀ report, s.stage = .reported report → Accounts policy batch turns report := by
  obtain ⟨last, along⟩ := along_of_course course
  have budget := along.budget
  have pace := along.pace
  exact ⟨by omega, by omega, course.continues, along.reported, fun report => along.accounts⟩

/-- The connection fails, then there is one status too few, and the rest after that is cut short. -/
def cutShort : List Turn :=
  [.send, .answer (.failed (.connection "refused")), .wake, .send,
    .answer (.statuses [.accepted none]), .stop, .abandon]

def cutShortPolicy : RetryPolicy := ⟨2, .ofMilliseconds 1000, .ofMilliseconds 1500⟩

def cutShortBatch : Batch :=
  .ofItems 1 [.make ⟨0, none⟩ .index "idx" none [], .make ⟨1, none⟩ .index "idx" none []]

theorem report_exact_cutShort :
    cutShortPolicy.maxRetries.toNat + 1 < UInt32.size ∧
    ∃ s report, Course cutShortPolicy cutShortBatch cutShort true s ∧
      s.stage = .reported report ∧
      Accounts cutShortPolicy cutShortBatch cutShort report ∧
      report.attempts = 2 ∧ report.verdict = .abandoned ∧
      report.delays = [.ofMilliseconds 1000, .ofMilliseconds 1500] := by
  have fits : cutShortPolicy.maxRetries.toNat + 1 < UInt32.size := by decide
  have course : Course cutShortPolicy cutShortBatch cutShort true _ :=
    .abandon (.stop (.answer _ (.send (.wake (.answer _ (.send .start rfl) rfl) rfl) rfl) rfl)) rfl
  refine ⟨fits, _, _, course, rfl, (report_exact _ fits _ _ _ _ course).2.2.2.2 _ rfl, rfl, rfl, ?_⟩
  decide

end Submission

end BulkIngest
