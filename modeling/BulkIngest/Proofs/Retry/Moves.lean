import BulkIngest.Pipeline.Machine

/-!
The moves of a submission, and where it stands after the last answer to its batch. `Stands` ties the
stage to that answer: the outcomes that are reported in the end are those that the last answer has
for the batch, and a rest begins only after a failure that may be tried again. Each move uses up
some of what may still happen to the batch, its `fuel`.
-/

namespace BulkIngest

/-- The batch that an action is about. -/
def Action.sequence? : Action → Option Nat
  | .send sequence | .answer sequence _ | .timeOut sequence | .wake sequence
  | .abandon sequence | .absorb sequence => some sequence
  | .cancel | .pull _ | .stop | .close => none

theorem Outcome.ref_ofStatus (ref : DocumentRef) (status : ItemStatus) :
    (Outcome.ofStatus ref status).ref = ref := by
  cases status with
  | accepted id => rfl
  | rejected code reason => rfl

namespace Batch

def panicFailures (batch : Batch) (message : Option String) : List Outcome :=
  batch.refs.map
    (Outcome.failed .transport s!"submission panicked: {Machine.panicText message}")

/-- The outcomes of a batch if nothing comes after an answer that is read so. -/
def outcomesOf (batch : Batch) : Reading → List Outcome
  | .delivered outcomes => outcomes
  | .lost e => batch.transportFailures e
  | .broken message => batch.panicFailures message

theorem reconcile_of_length {batch : Batch} {statuses : List ItemStatus}
    (h : statuses.length = batch.size) :
    batch.reconcile statuses = .ok (List.zipWith Outcome.ofStatus batch.refs statuses) :=
  if_pos h

theorem reconcile_of_ne {batch : Batch} {statuses : List ItemStatus}
    (h : statuses.length ≠ batch.size) :
    batch.reconcile statuses = .error (.itemCountMismatch batch.size statuses.length) :=
  if_neg h

theorem reading_of_length {batch : Batch} {statuses : List ItemStatus}
    (h : statuses.length = batch.size) :
    batch.reading (.statuses statuses) =
      .delivered (List.zipWith Outcome.ofStatus batch.refs statuses) := by
  simp only [reading, reconcile_of_length h]

theorem reading_of_ne {batch : Batch} {statuses : List ItemStatus}
    (h : statuses.length ≠ batch.size) :
    batch.reading (.statuses statuses) =
      .lost (.itemCountMismatch batch.size statuses.length) := by
  simp only [reading, reconcile_of_ne h]

@[simp]
theorem reading_failed (batch : Batch) (e : TransportError) :
    batch.reading (.failed e) = .lost e :=
  rfl

@[simp]
theorem reading_panicked (batch : Batch) (message : Option String) :
    batch.reading (.panicked message) = .broken message :=
  rfl

theorem length_refs (batch : Batch) : batch.refs.length = batch.size :=
  List.length_map ..

private theorem refs_zipWith (refs : List DocumentRef) (statuses : List ItemStatus)
    (h : statuses.length = refs.length) :
    (List.zipWith Outcome.ofStatus refs statuses).map (·.ref) = refs := by
  induction refs generalizing statuses with
  | nil => simp
  | cons ref refs ih =>
      cases statuses with
      | nil => contradiction
      | cons status statuses =>
          simp only [List.zipWith_cons_cons, List.map_cons, Outcome.ref_ofStatus]
          rw [ih statuses (Nat.succ.inj h)]

theorem refs_failures (batch : Batch) (kind : FailureKind) (message : String) :
    (batch.refs.map (Outcome.failed kind message)).map (·.ref) = batch.refs := by
  rw [List.map_map]
  exact List.map_id _

/-- Whatever the answer, each document of the batch has one outcome, in the order of the batch. -/
theorem refs_outcomesOf (batch : Batch) (a : Answer) :
    (batch.outcomesOf (batch.reading a)).map (·.ref) = batch.refs := by
  cases a with
  | panicked message => exact batch.refs_failures _ _
  | failed e => exact batch.refs_failures _ _
  | statuses statuses =>
      by_cases h : statuses.length = batch.size
      · rw [reading_of_length h]
        exact refs_zipWith _ _ (h.trans batch.length_refs.symm)
      · rw [reading_of_ne h]
        exact batch.refs_failures _ _

/-- One attempt has an outcome for each document, unless the sink breaks down. -/
theorem submit_eq (batch : Batch) (a : Answer) :
    (∃ message, a = .panicked message ∧ batch.submit a = .error message) ∨
      batch.submit a = .ok (batch.outcomesOf (batch.reading a)) := by
  cases a with
  | panicked message => exact .inl ⟨message, rfl, rfl⟩
  | failed e => exact .inr rfl
  | statuses statuses =>
      right
      by_cases h : statuses.length = batch.size
      · simp only [submit, reading_of_length h, outcomesOf]
      · simp only [submit, reading_of_ne h, outcomesOf]

theorem refs_of_submit {batch : Batch} {a : Answer} {outcomes : List Outcome}
    (done : batch.submit a = .ok outcomes) : outcomes.map (·.ref) = batch.refs := by
  rcases batch.submit_eq a with ⟨message, -, broken⟩ | eq
  · simp [broken] at done
  · rw [← Except.ok.inj (eq.symm.trans done)]
    exact batch.refs_outcomesOf a

end Batch

namespace Submission

/-- The changes of one submission, each by an action on its batch. `stopped` says that no rest may
begin any more; one that is going on may still end before the submission has its next turn. -/
inductive Moves (config : PipelineConfig) (stopped : Bool) (s : Submission) :
    Action → Submission → Prop
  | send (due : s.stage = .queued ∨ ∃ last, s.stage = .rested last) :
      Moves config stopped s (.send s.sequence)
        { s with attempts := s.attempts + 1, stage := .sending }
  | answer (a : Answer) (wire : s.stage = .sending) :
      Moves config stopped s (.answer s.sequence a)
        (s.conclude config.retryPolicy stopped a)
  | timeOut (wire : s.stage = .sending) :
      Moves config stopped s (.timeOut s.sequence)
        (s.conclude config.retryPolicy stopped (.failed (.timeout config.submitTimeout)))
  | wake (last : TransportError) (rest : s.stage = .resting last) :
      Moves config stopped s (.wake s.sequence) { s with stage := .rested last }
  | abandon (last : TransportError) (rest : s.stage = .resting last ∨ s.stage = .rested last)
      (stopping : stopped = true) :
      Moves config stopped s (.abandon s.sequence) (s.abandonAfter last)

theorem batch_conclude (policy : RetryPolicy) (stopped : Bool) (s : Submission) (a : Answer) :
    (s.conclude policy stopped a).batch = s.batch := by
  rw [conclude]
  cases s.batch.reading a with
  | delivered _ | broken _ => rfl
  | lost e =>
      simp only [afterFailure]
      split
      · rfl
      · split <;> rfl

theorem attempts_conclude (policy : RetryPolicy) (stopped : Bool) (s : Submission) (a : Answer) :
    (s.conclude policy stopped a).attempts = s.attempts := by
  rw [conclude]
  cases s.batch.reading a with
  | delivered _ | broken _ => rfl
  | lost e =>
      simp only [afterFailure]
      split
      · rfl
      · split <;> rfl

theorem isOver_conclude (policy : RetryPolicy) (s : Submission) (a : Answer) :
    (s.conclude policy true a).isOver = true := by
  rw [conclude]
  cases s.batch.reading a with
  | delivered _ | broken _ => rfl
  | lost e =>
      simp only [afterFailure, if_true]
      split <;> rfl

/-- A report that an answer leads to has the outcomes of that one attempt. -/
theorem submit_of_reported {policy : RetryPolicy} {stopped : Bool} {s : Submission} {a : Answer}
    {report : SubmissionReport}
    (reported : (s.conclude policy stopped a).stage = .reported report) :
    s.batch.submit a = .ok report.outcomes := by
  rw [conclude] at reported
  rw [Batch.submit]
  cases read : s.batch.reading a with
  | delivered outcomes =>
      simp only [read, Submission.report, Stage.reported.injEq] at reported
      rw [← reported]
  | lost e =>
      simp only [read, afterFailure] at reported
      split at reported
      · simp only [Submission.report, Stage.reported.injEq] at reported
        rw [← reported]
      · split at reported
        · simp only [abandonAfter, Submission.report, Stage.reported.injEq] at reported
          rw [← reported]
        · contradiction
  | broken message => simp [read] at reported

theorem Moves.batch_eq {config : PipelineConfig} {stopped : Bool} {s s' : Submission}
    {action : Action} (h : Moves config stopped s action s') : s'.batch = s.batch := by
  cases h with
  | send _ | wake _ _ | abandon _ _ _ => rfl
  | answer _ _ | timeOut _ => exact batch_conclude _ _ _ _

theorem Moves.sequence?_eq {config : PipelineConfig} {stopped : Bool} {s s' : Submission}
    {action : Action} (h : Moves config stopped s action s') :
    action.sequence? = some s.sequence := by
  cases h <;> rfl

/-- Only the first request finds a submission that has not begun. -/
theorem Moves.begun {config : PipelineConfig} {stopped : Bool} {s s' : Submission}
    {action : Action} (h : Moves config stopped s action s') :
    action = .send s.sequence ∨ s.stage ≠ .queued := by
  cases h with
  | send due => exact .inl rfl
  | answer a wire | timeOut wire => exact .inr (by simp [wire])
  | wake last rest => exact .inr (by simp [rest])
  | abandon last rest stopping =>
      rcases rest with rest | rest
      · exact .inr (by simp [rest])
      · exact .inr (by simp [rest])

theorem Moves.sequence_eq {config : PipelineConfig} {stopped : Bool} {s s' : Submission}
    {action : Action} (h : Moves config stopped s action s') : s'.sequence = s.sequence :=
  congrArg Batch.sequence h.batch_eq

/-- Where a submission stands when the last call for its batch was answered by `last`: `none` before
the first call, `some none` while a call is on the wire. -/
inductive Stands (policy : RetryPolicy) (stopped : Bool) (s : Submission) :
    Option (Option Answer) → Prop
  | queued (fresh : s = .of s.batch) : Stands policy stopped s none
  | sending (stage : s.stage = .sending) (begun : 1 ≤ s.attempts)
      (budget : s.attempts ≤ policy.maxRetries.toNat + 1) : Stands policy stopped s (some none)
  | resting {a : Answer} (e : TransportError)
      (stage : s.stage = .resting e ∨ s.stage = .rested e) (begun : 1 ≤ s.attempts)
      (budget : s.attempts ≤ policy.maxRetries.toNat) (read : s.batch.reading a = .lost e)
      (again : e.isRetryable = true) : Stands policy stopped s (some (some a))
  | delivered {a : Answer} (outcomes : List Outcome)
      (stage : s.stage = .reported ⟨outcomes, s.attempts, s.delays, .delivered⟩)
      (begun : 1 ≤ s.attempts) (read : s.batch.reading a = .delivered outcomes) :
      Stands policy stopped s (some (some a))
  | exhausted {a : Answer} (e : TransportError)
      (stage : s.stage = .reported ⟨s.batch.transportFailures e, s.attempts, s.delays,
        .exhausted (.retriesExhausted s.attempts e)⟩)
      (begun : 1 ≤ s.attempts) (read : s.batch.reading a = .lost e)
      (final : policy.maxRetries.toNat < s.attempts ∨ e.isRetryable = false) :
      Stands policy stopped s (some (some a))
  | abandoned {a : Answer} (e : TransportError)
      (stage : s.stage = .reported ⟨s.batch.transportFailures e, s.attempts, s.delays,
        .abandoned⟩)
      (begun : 1 ≤ s.attempts) (budget : s.attempts ≤ policy.maxRetries.toNat)
      (read : s.batch.reading a = .lost e) (again : e.isRetryable = true)
      (stopping : stopped = true) : Stands policy stopped s (some (some a))
  | panicked {a : Answer} (message : Option String) (stage : s.stage = .panicked message)
      (begun : 1 ≤ s.attempts) (read : s.batch.reading a = .broken message) :
      Stands policy stopped s (some (some a))

theorem Stands.mono {policy : RetryPolicy} {before after : Bool} {s : Submission}
    {last : Option (Option Answer)} (h : Stands policy before s last)
    (later : before = true → after = true) : Stands policy after s last := by
  cases h with
  | queued fresh => exact .queued fresh
  | sending stage begun budget => exact .sending stage begun budget
  | resting e stage begun budget read again => exact .resting e stage begun budget read again
  | delivered outcomes stage begun read => exact .delivered outcomes stage begun read
  | exhausted e stage begun read final => exact .exhausted e stage begun read final
  | abandoned e stage begun budget read again stopping =>
      exact .abandoned e stage begun budget read again (later stopping)
  | panicked message stage begun read => exact .panicked message stage begun read

theorem Stands.ne_none {policy : RetryPolicy} {stopped : Bool} {s : Submission}
    {last : Option (Option Answer)} (h : Stands policy stopped s last)
    (begun : s.stage ≠ .queued) : last ≠ none := by
  cases h with
  | queued fresh => exact (begun (congrArg stage fresh)).elim
  | _ => simp

theorem stands_conclude {policy : RetryPolicy} {stopped : Bool} {s : Submission} (a : Answer)
    (begun : 1 ≤ s.attempts) (budget : s.attempts ≤ policy.maxRetries.toNat + 1) :
    Stands policy stopped (s.conclude policy stopped a) (some (some a)) := by
  rw [conclude]
  cases read : s.batch.reading a with
  | delivered outcomes => exact .delivered outcomes rfl begun read
  | broken message => exact .panicked message rfl begun read
  | lost e =>
      simp only [afterFailure]
      split
      · rename_i final
        refine .exhausted e rfl begun read ?_
        simp only [Bool.or_eq_true, decide_eq_true_eq, Bool.not_eq_true'] at final
        exact final.imp_left fun h => by change policy.maxRetries.toNat < s.attempts; omega
      · rename_i left
        simp only [Bool.or_eq_true, decide_eq_true_eq, Bool.not_eq_true', not_or,
          Bool.not_eq_false] at left
        have budget' : s.attempts ≤ policy.maxRetries.toNat := by omega
        split
        · exact .abandoned e rfl begun budget' read left.2 ‹_›
        · exact .resting e (.inl rfl) begun budget' read left.2

/-- The last answer to a batch after an action on it. -/
def lastAfter (config : PipelineConfig) (last : Option (Option Answer)) :
    Action → Option (Option Answer)
  | .send _ => some none
  | .answer _ a => some (some a)
  | .timeOut _ => some (some (.failed (.timeout config.submitTimeout)))
  | _ => last

/-- How much may still happen to a batch that is attempted `rounds` times at most. -/
def fuel (rounds : Nat) (s : Submission) : Nat :=
  match s.stage with
  | .queued => 3 * rounds
  | .sending => 3 * (rounds - s.attempts) + 2
  | .resting _ => 3 * (rounds - s.attempts) + 1
  | .rested _ => 3 * (rounds - s.attempts)
  | .reported _ | .panicked _ => 1

section Turns

variable {policy : RetryPolicy} {stopped : Bool} {s s' : Submission}
  {last : Option (Option Answer)}

theorem send?_eq_some_iff : s.send? = some s' ↔
    (s.stage = .queued ∨ ∃ e, s.stage = .rested e) ∧
      { s with attempts := s.attempts + 1, stage := .sending } = s' := by
  cases stage : s.stage <;> simp [send?, stage]

theorem answer?_eq_some_iff {a : Answer} : s.answer? policy stopped a = some s' ↔
    s.stage = .sending ∧ s.conclude policy stopped a = s' := by
  cases stage : s.stage <;> simp [answer?, stage]

theorem wake?_eq_some_iff :
    s.wake? = some s' ↔ ∃ e, s.stage = .resting e ∧ { s with stage := .rested e } = s' := by
  cases stage : s.stage <;> simp [wake?, stage]

theorem abandon?_eq_some_iff : s.abandon? = some s' ↔
    ∃ e, (s.stage = .resting e ∨ s.stage = .rested e) ∧ s.abandonAfter e = s' := by
  cases stage : s.stage <;> simp [abandon?, stage]

theorem Stands.send (h : Stands policy stopped s last)
    (due : s.stage = .queued ∨ ∃ e, s.stage = .rested e) :
    Stands policy stopped { s with attempts := s.attempts + 1, stage := .sending } (some none) := by
  refine .sending rfl (Nat.le_add_left 1 s.attempts) ?_
  change s.attempts + 1 ≤ _
  cases h with
  | queued fresh => rw [fresh]; exact Nat.le_add_left 1 _
  | resting e stage begun budget read again => exact Nat.succ_le_succ budget
  | _ => simp_all

theorem Stands.answer (h : Stands policy stopped s last) (wire : s.stage = .sending) (a : Answer) :
    Stands policy stopped (s.conclude policy stopped a) (some (some a)) := by
  cases h with
  | sending stage begun budget => exact stands_conclude a begun budget
  | queued fresh => rw [fresh] at wire; contradiction
  | _ => simp_all

theorem Stands.wake (h : Stands policy stopped s last) {e : TransportError}
    (rest : s.stage = .resting e) : Stands policy stopped { s with stage := .rested e } last := by
  cases h with
  | resting e' stage begun budget read again =>
      have same : e = e' := by simpa [rest] using stage
      exact .resting e (.inr rfl) begun budget (same ▸ read) (same ▸ again)
  | queued fresh => rw [fresh] at rest; contradiction
  | _ => simp_all

theorem Stands.abandon (h : Stands policy stopped s last) {e : TransportError}
    (rest : s.stage = .resting e ∨ s.stage = .rested e) (stopping : stopped = true) :
    Stands policy stopped (s.abandonAfter e) last := by
  cases h with
  | resting e' stage begun budget read again =>
      have same : e = e' := by
        rcases rest with rest | rest <;> simpa [rest] using stage
      exact .abandoned e rfl begun budget (same ▸ read) (same ▸ again) stopping
  | queued fresh => rw [fresh] at rest; simp [of] at rest
  | _ => simp_all

theorem fuel_conclude_le (policy : RetryPolicy) (stopped : Bool) (rounds : Nat) (s : Submission)
    (a : Answer) : (s.conclude policy stopped a).fuel rounds ≤ 3 * (rounds - s.attempts) + 1 := by
  rw [conclude]
  cases s.batch.reading a with
  | delivered outcomes => exact Nat.le_add_left 1 _
  | broken message => exact Nat.le_add_left 1 _
  | lost e =>
      simp only [afterFailure]
      split
      · exact Nat.le_add_left 1 _
      · split
        · exact Nat.le_add_left 1 _
        · exact Nat.le_refl _

theorem fuel_of_isOver (rounds : Nat) (ended : s.isOver = true) : s.fuel rounds = 1 := by
  cases stage : s.stage with
  | reported _ | panicked _ => simp only [fuel, stage]
  | queued | sending | resting _ | rested _ => simp [isOver, stage] at ended

theorem Stands.fuel_pos (h : Stands policy stopped s last) :
    0 < s.fuel (policy.maxRetries.toNat + 1) := by
  cases h with
  | queued fresh =>
      rw [fresh]
      simp only [fuel, Submission.of]
      omega
  | resting e stage begun budget read again =>
      rcases stage with stage | stage <;>
      · simp only [fuel, stage]
        omega
  | sending stage _ _ => simp [fuel, stage]
  | delivered _ stage _ _ | exhausted _ stage _ _ _ | abandoned _ stage _ _ _ _ _
  | panicked _ stage _ _ => simp [fuel, stage]

theorem Stands.fuel_send_lt (h : Stands policy stopped s last)
    (due : s.stage = .queued ∨ ∃ e, s.stage = .rested e) :
    fuel (policy.maxRetries.toNat + 1)
      { s with attempts := s.attempts + 1, stage := .sending } <
      s.fuel (policy.maxRetries.toNat + 1) := by
  cases h with
  | queued fresh =>
      rw [fresh]
      simp only [fuel, Submission.of]
      omega
  | resting e stage begun budget read again =>
      rcases due with queued | ⟨rested, due⟩
      · simp [queued] at stage
      · simp only [fuel, due]
        omega
  | _ => simp_all

theorem fuel_conclude_lt (policy : RetryPolicy) (stopped : Bool) (rounds : Nat)
    (wire : s.stage = .sending) (a : Answer) :
    (s.conclude policy stopped a).fuel rounds < s.fuel rounds := by
  refine Nat.lt_of_le_of_lt (fuel_conclude_le policy stopped rounds s a) ?_
  simp only [fuel, wire]
  omega

theorem fuel_wake_lt (rounds : Nat) {e : TransportError} (rest : s.stage = .resting e) :
    fuel rounds { s with stage := .rested e } < s.fuel rounds := by
  simp only [fuel, rest]
  omega

theorem Stands.fuel_abandon_lt (h : Stands policy stopped s last) {e : TransportError}
    (rest : s.stage = .resting e ∨ s.stage = .rested e) :
    (s.abandonAfter e).fuel (policy.maxRetries.toNat + 1) <
      s.fuel (policy.maxRetries.toNat + 1) := by
  have budget : s.attempts ≤ policy.maxRetries.toNat := by
    cases h with
    | resting _ _ _ budget _ _ => exact budget
    | queued fresh =>
        rw [fresh] at rest
        simp [Submission.of] at rest
    | _ => simp_all
  have spent : (s.abandonAfter e).fuel (policy.maxRetries.toNat + 1) = 1 := rfl
  rw [spent]
  rcases rest with rest | rest
  · simp only [fuel, rest]
    omega
  · simp only [fuel, rest]
    omega

end Turns

theorem Stands.move {config : PipelineConfig} {stopped : Bool} {s s' : Submission}
    {action : Action} {last : Option (Option Answer)}
    (h : Stands config.retryPolicy stopped s last) (moves : Moves config stopped s action s') :
    Stands config.retryPolicy stopped s' (lastAfter config last action) := by
  cases moves with
  | send due => exact h.send due
  | answer a wire => exact h.answer wire a
  | timeOut wire => exact h.answer wire _
  | wake e rest => exact h.wake rest
  | abandon e rest stopping => exact h.abandon rest stopping

theorem Stands.fuel_lt {config : PipelineConfig} {stopped : Bool} {s s' : Submission}
    {action : Action} {last : Option (Option Answer)}
    (h : Stands config.retryPolicy stopped s last) (moves : Moves config stopped s action s') :
    s'.fuel (config.maxRetries.toNat + 1) < s.fuel (config.maxRetries.toNat + 1) := by
  cases moves with
  | send due => exact h.fuel_send_lt due
  | answer a wire => exact fuel_conclude_lt _ _ _ wire a
  | timeOut wire => exact fuel_conclude_lt _ _ _ wire _
  | wake e rest => exact fuel_wake_lt _ rest
  | abandon e rest stopping => exact h.fuel_abandon_lt rest

end Submission

end BulkIngest
