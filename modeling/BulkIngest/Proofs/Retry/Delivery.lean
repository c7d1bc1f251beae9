import BulkIngest.Proofs.Retry.Moves

/-!
Sinks whose reaction depends only on the batch and on the attempt. With such a sink a batch that can
be delivered takes the same number of attempts whatever else happens, as long as nothing stops its
retries: `OnTrack` is where a submission may be on its way there.
-/

namespace BulkIngest

/-- What a sink does with a call: it answers after a while, or never. -/
structure Reaction where
  delay : Duration
  answer : Option Answer

/-- The answer to a call, if it comes before the deadline is over. -/
def Reaction.answer? (reaction : Reaction) (deadline : Duration) : Option Answer :=
  if reaction.delay.nanoseconds ≤ deadline.nanoseconds then reaction.answer else none

/-- The reaction to each attempt of the batch with a given number. -/
abbrev Reactions := Nat → Nat → Reaction

/-- What comes of an attempt: the answer, or that none came in time. -/
def Reactions.result (reactions : Reactions) (config : PipelineConfig) (sequence attempt : Nat) :
    Answer :=
  ((reactions sequence attempt).answer? config.submitTimeout).getD
    (.failed (.timeout config.submitTimeout))

def ItemStatus.isAccepted : ItemStatus → Bool
  | .accepted _ => true
  | .rejected _ _ => false

/-- How a batch is delivered: the number of attempts it takes, and the statuses that end them. -/
structure Delivery where
  attempts : Nat
  statuses : List ItemStatus

namespace Delivery

def accepted (delivery : Delivery) : Nat := delivery.statuses.countP (·.isAccepted)

def rejected (delivery : Delivery) : Nat := delivery.statuses.countP (!·.isAccepted)

/-- On its own the batch is delivered in this way: earlier attempts fail so that they may be
repeated, the last one brings a status for each document, and the retries suffice. -/
structure Serves (delivery : Delivery) (config : PipelineConfig) (reactions : Reactions)
    (batch : Batch) : Prop where
  begun : 1 ≤ delivery.attempts
  budget : delivery.attempts ≤ config.maxRetries.toNat + 1
  lost : ∀ attempt, 1 ≤ attempt → attempt < delivery.attempts →
    ∃ e, batch.reading (reactions.result config batch.sequence attempt) = .lost e ∧
      e.isRetryable = true
  answered : reactions.result config batch.sequence delivery.attempts =
    .statuses delivery.statuses
  counted : delivery.statuses.length = batch.size

/-- The outcomes of a batch that is delivered so. -/
def outcomes (delivery : Delivery) (batch : Batch) : List Outcome :=
  List.zipWith Outcome.ofStatus batch.refs delivery.statuses

theorem isSuccess_ofStatus (ref : DocumentRef) (status : ItemStatus) :
    (Outcome.ofStatus ref status).isSuccess = status.isAccepted := by
  cases status <;> rfl

private theorem countP_zipWith (q : Bool → Bool) (refs : List DocumentRef)
    (statuses : List ItemStatus) (h : statuses.length = refs.length) :
    (List.zipWith Outcome.ofStatus refs statuses).countP (fun outcome => q outcome.isSuccess) =
      statuses.countP (fun status => q status.isAccepted) := by
  induction refs generalizing statuses with
  | nil =>
      rw [List.length_eq_zero_iff.mp h]
      rfl
  | cons ref refs ih =>
      cases statuses with
      | nil => contradiction
      | cons status statuses =>
          simp only [List.zipWith_cons_cons, List.countP_cons, isSuccess_ofStatus]
          rw [ih statuses (Nat.succ.inj h)]

variable {delivery : Delivery} {config : PipelineConfig} {reactions : Reactions} {batch : Batch}

/-- How many submissions may be out at once is nothing to a batch. -/
theorem Serves.widen (h : delivery.Serves config reactions batch) (width : UInt64) :
    delivery.Serves { config with maxInFlight := width } reactions batch :=
  ⟨h.begun, h.budget, h.lost, h.answered, h.counted⟩

theorem Serves.countP_outcomes (h : delivery.Serves config reactions batch) (q : Bool → Bool) :
    (delivery.outcomes batch).countP (fun outcome => q outcome.isSuccess) =
      delivery.statuses.countP (fun status => q status.isAccepted) :=
  countP_zipWith q _ _ (h.counted.trans batch.length_refs.symm)

end Delivery

namespace Submission

variable {delivery : Delivery} {config : PipelineConfig} {reactions : Reactions}
  {s s' : Submission} {action : Action}

/-- Where a submission is on the way to its delivery. -/
inductive OnTrack (delivery : Delivery) (s : Submission) : Prop
  | queued (stage : s.stage = .queued) (fresh : s.attempts = 0)
  | sending (stage : s.stage = .sending) (begun : 1 ≤ s.attempts)
      (due : s.attempts ≤ delivery.attempts)
  | resting (e : TransportError) (stage : s.stage = .resting e ∨ s.stage = .rested e)
      (begun : 1 ≤ s.attempts) (due : s.attempts < delivery.attempts)
  | delivered (delays : List Duration) (stage : s.stage = .reported
      ⟨delivery.outcomes s.batch, delivery.attempts, delays, .delivered⟩)

theorem onTrack_conclude (serves : delivery.Serves config reactions s.batch)
    (begun : 1 ≤ s.attempts) (due : s.attempts ≤ delivery.attempts) :
    OnTrack delivery
      (s.conclude config.retryPolicy false (reactions.result config s.sequence s.attempts)) := by
  rw [conclude]
  rcases Nat.lt_or_eq_of_le due with early | last
  · obtain ⟨e, read, again⟩ := serves.lost s.attempts begun early
    have left : ¬config.maxRetries.toNat ≤ s.attempts - 1 := by
      have budget := serves.budget
      omega
    have read : s.batch.reading (reactions.result config s.sequence s.attempts) = .lost e := read
    simp only [read, afterFailure, PipelineConfig.retryPolicy, left, again,
      decide_false, Bool.not_true, Bool.or_self, Bool.false_eq_true, if_false]
    exact .resting e (.inl rfl) begun early
  · have answered : reactions.result config s.sequence s.attempts =
        .statuses delivery.statuses := last ▸ serves.answered
    rw [answered, Batch.reading_of_length serves.counted]
    refine .delivered s.delays ?_
    simp only [report, last, Delivery.outcomes]

theorem OnTrack.move (h : OnTrack delivery s) (serves : delivery.Serves config reactions s.batch)
    (moves : Moves config false s action s')
    (heard : ∀ a, lastAfter config none action = some (some a) →
      a = reactions.result config s.sequence s.attempts) : OnTrack delivery s' := by
  cases moves with
  | send due =>
      refine .sending rfl (Nat.le_add_left 1 s.attempts) ?_
      change s.attempts + 1 ≤ _
      cases h with
      | queued stage fresh =>
          rw [fresh]
          exact serves.begun
      | resting e stage begun due => exact due
      | _ => simp_all
  | answer a wire =>
      cases h with
      | sending stage begun due => exact heard a rfl ▸ onTrack_conclude serves begun due
      | _ => simp_all
  | timeOut wire =>
      cases h with
      | sending stage begun due => exact heard _ rfl ▸ onTrack_conclude serves begun due
      | _ => simp_all
  | wake e rest =>
      cases h with
      | resting e' stage begun due => exact .resting e (.inr rfl) begun due
      | _ => simp_all
  | abandon e rest stopping => contradiction

end Submission

end BulkIngest
