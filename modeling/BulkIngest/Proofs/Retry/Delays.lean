import BulkIngest.Proofs.Retry.Reports
import Mathlib.Algebra.Order.Ring.Nat

/-!
How long the rests between attempts are. `nanoseconds_delayFor` is the length of each one: the base
delay doubled once for each retry and cut off at the longest delay, as long as the factor fits 32
bits, and the longest delay from then on. A product that is no span of time is above the longest
delay anyway, so only the factor can make a difference. What a report says about its rests is read
off the same equation.
-/

namespace BulkIngest

namespace RetryPolicy

variable {policy : RetryPolicy} {retry earlier later : Nat}

theorem nanoseconds_delayFor (policy : RetryPolicy) (retry : Nat) :
    (policy.delayFor retry).nanoseconds =
      if retry < 32 then
        min (policy.baseDelay.nanoseconds * 2 ^ retry) policy.maxDelay.nanoseconds
      else policy.maxDelay.nanoseconds := by
  have longest := policy.maxDelay.bounded
  by_cases fits : retry < 32
  · rw [if_pos fits]
    by_cases span : policy.baseDelay.nanoseconds * 2 ^ retry < UInt64.size * 1000000000
    · have doubled : policy.doubled? retry = some ⟨_, span⟩ := by
        rw [doubled?, if_pos fits]
        exact dif_pos span
      rw [delayFor, doubled]
      exact Duration.nanoseconds_min _ _
    · have doubled : policy.doubled? retry = none := by
        rw [doubled?, if_pos fits]
        exact dif_neg span
      rw [delayFor, doubled, Nat.min_eq_right (by omega)]
  · have doubled : policy.doubled? retry = none := if_neg fits
    rw [if_neg fits, delayFor, doubled]

/-- Every delay is the longest one or the exact one, and it is the exact one if and only if the
factor by which the base delay grows fits 32 bits or the longest delay is due anyway. -/
theorem delay_exact_unless_factor_overflows (policy : RetryPolicy) (retry : Nat) :
    ((policy.delayFor retry).nanoseconds =
        min (policy.baseDelay.nanoseconds * 2 ^ retry) policy.maxDelay.nanoseconds ↔
      retry < 32 ∨
        policy.maxDelay.nanoseconds ≤ policy.baseDelay.nanoseconds * 2 ^ retry) ∧
    ((policy.delayFor retry).nanoseconds =
        min (policy.baseDelay.nanoseconds * 2 ^ retry) policy.maxDelay.nanoseconds ∨
      policy.delayFor retry = policy.maxDelay) := by
  have delay := policy.nanoseconds_delayFor retry
  by_cases fits : retry < 32
  · rw [if_pos fits] at delay
    exact ⟨iff_of_true delay (.inl fits), .inl delay⟩
  · rw [if_neg fits] at delay
    refine ⟨?_, .inr (Duration.eq_of_nanoseconds delay)⟩
    rw [delay]
    constructor
    · intro longest
      exact .inr (longest ▸ Nat.min_le_left _ _)
    · intro due
      exact (Nat.min_eq_right (due.resolve_left fits)).symm

/-- Without a base delay every retry is due at once, as long as the factor fits. -/
def impatientPolicy : RetryPolicy := ⟨40, .zero, .ofMilliseconds 1000⟩

theorem not_all_delays_exact :
    ¬ ∀ (policy : RetryPolicy) (retry : Nat), retry < UInt32.size →
      (policy.delayFor retry).nanoseconds =
        min (policy.baseDelay.nanoseconds * 2 ^ retry) policy.maxDelay.nanoseconds := by
  intro all
  have least := all impatientPolicy 32 (by decide)
  have rests : (impatientPolicy.delayFor 32).nanoseconds = 1000000000 := by decide
  have due : impatientPolicy.baseDelay.nanoseconds * 2 ^ 32 = 0 := Nat.zero_mul _
  rw [rests, due, Nat.zero_min] at least
  contradiction

theorem delayFor_le (policy : RetryPolicy) (retry : Nat) :
    (policy.delayFor retry).nanoseconds ≤ policy.maxDelay.nanoseconds := by
  rw [nanoseconds_delayFor]
  split
  · exact Nat.min_le_right _ _
  · exact Nat.le_refl _

/-- One more retry doubles the delay, unless it is the longest from then on. -/
theorem delayFor_succ (policy : RetryPolicy) (retry : Nat) :
    policy.delayFor (retry + 1) = policy.maxDelay ∨
      (policy.delayFor (retry + 1)).nanoseconds = 2 * (policy.delayFor retry).nanoseconds := by
  by_cases fits : retry + 1 < 32
  · have next := policy.nanoseconds_delayFor (retry + 1)
    have present := policy.nanoseconds_delayFor retry
    rw [if_pos fits, Nat.pow_succ, ← Nat.mul_assoc] at next
    rw [if_pos (Nat.lt_of_succ_lt fits)] at present
    by_cases longest : policy.maxDelay.nanoseconds ≤ policy.baseDelay.nanoseconds * 2 ^ retry * 2
    · rw [Nat.min_eq_right longest] at next
      exact .inl (Duration.eq_of_nanoseconds next)
    · right
      omega
  · left
    apply Duration.eq_of_nanoseconds
    rw [nanoseconds_delayFor, if_neg fits]

theorem delayFor_mono (ordered : earlier ≤ later) :
    (policy.delayFor earlier).nanoseconds ≤ (policy.delayFor later).nanoseconds := by
  induction ordered with
  | refl => exact Nat.le_refl _
  | @step later _ ih =>
      apply Nat.le_trans ih
      cases policy.delayFor_succ later with
      | inl longest =>
          rw [longest]
          exact policy.delayFor_le later
      | inr doubled =>
          rw [doubled]
          omega

theorem delayFor_pos (base : 0 < policy.baseDelay.nanoseconds)
    (longest : 0 < policy.maxDelay.nanoseconds) (retry : Nat) :
    0 < (policy.delayFor retry).nanoseconds := by
  rw [nanoseconds_delayFor]
  split
  · exact Nat.lt_min.mpr ⟨Nat.mul_pos base (Nat.two_pow_pos retry), longest⟩
  · exact longest

/-- As long as the longest delay is not reached every delay is above those before it. -/
theorem delayFor_lt (base : 0 < policy.baseDelay.nanoseconds) (ordered : earlier < later)
    (short : (policy.delayFor earlier).nanoseconds < policy.maxDelay.nanoseconds) :
    (policy.delayFor earlier).nanoseconds < (policy.delayFor later).nanoseconds := by
  have positive := delayFor_pos base (Nat.zero_lt_of_lt short) earlier
  have next : (policy.delayFor earlier).nanoseconds <
    (policy.delayFor (earlier + 1)).nanoseconds := by
    cases policy.delayFor_succ earlier with
    | inl longest =>
        rw [longest]
        exact short
    | inr doubled => omega
  exact Nat.lt_of_lt_of_le next (delayFor_mono ordered)

/-- Delays that rise strictly until they reach the longest one and stay there. -/
def RisesTo (longest : Duration) (delays : List Duration) : Prop :=
  ∃ rising count, delays = rising ++ List.replicate count longest ∧
    rising.Pairwise (·.nanoseconds < ·.nanoseconds) ∧
    ∀ delay ∈ rising, delay.nanoseconds < longest.nanoseconds

theorem risesTo_delays (base : 0 < policy.baseDelay.nanoseconds) (count : Nat) :
    RisesTo policy.maxDelay ((List.range count).map policy.delayFor) := by
  induction count with
  | zero => exact ⟨[], 0, rfl, .nil, by simp⟩
  | succ count ih =>
      by_cases short : (policy.delayFor count).nanoseconds < policy.maxDelay.nanoseconds
      · -- what comes before a delay that is still rising was rising too
        have below : ∀ retry ∈ List.range (count + 1),
            (policy.delayFor retry).nanoseconds < policy.maxDelay.nanoseconds := by
          intro retry mem
          have ordered : retry ≤ count := Nat.le_of_lt_succ (List.mem_range.mp mem)
          exact Nat.lt_of_le_of_lt (delayFor_mono ordered) short
        refine ⟨(List.range (count + 1)).map policy.delayFor, 0, by simp, ?_, ?_⟩
        · rw [List.pairwise_map]
          apply List.pairwise_lt_range.imp_of_mem
          intro earlier later mem _ ordered
          exact delayFor_lt base ordered (below earlier mem)
        · simpa using below
      · have longest : policy.delayFor count = policy.maxDelay := by
          apply Duration.eq_of_nanoseconds
          have bound := policy.delayFor_le count
          omega
        obtain ⟨rising, stay, same, strict, below⟩ := ih
        refine ⟨rising, stay + 1, ?_, strict, below⟩
        rw [List.range_succ, List.map_append, same, List.map_singleton, longest,
          List.append_assoc, List.replicate_succ']

/-- No delay is above the longest one, none is below one before it, and each is the longest one or
twice the one before it. So the rests that a submission reports rise strictly until they are the
longest ones and stay that, provided there is a base delay. -/
theorem delays_rise_to_longest (policy : RetryPolicy) :
    (∀ retry, (policy.delayFor retry).nanoseconds ≤ policy.maxDelay.nanoseconds) ∧
    (∀ earlier later, earlier ≤ later →
      (policy.delayFor earlier).nanoseconds ≤ (policy.delayFor later).nanoseconds) ∧
    (∀ retry, policy.delayFor (retry + 1) = policy.maxDelay ∨
      (policy.delayFor (retry + 1)).nanoseconds = 2 * (policy.delayFor retry).nanoseconds) ∧
    (0 < policy.baseDelay.nanoseconds → ∀ batch turns stopped s report,
      Submission.Course policy batch turns stopped s → s.stage = .reported report →
        RisesTo policy.maxDelay report.delays) := by
  refine ⟨policy.delayFor_le, fun _ _ => delayFor_mono, policy.delayFor_succ, ?_⟩
  intro base batch turns stopped s report course reported
  obtain ⟨last, along⟩ := Submission.along_of_course course
  rw [(along.accounts reported).delays]
  exact risesTo_delays base _

def steadyPolicy : RetryPolicy := ⟨3, .ofMilliseconds 100, .ofMilliseconds 150⟩

def steadyBatch : Batch := .ofItems 1 [.make ⟨0, none⟩ .index "idx" none []]

def refusal : TransportError := .connection "refused"

/-- The batch after so many failed attempts, when the next one is due. -/
def steadyRested (attempts : Nat) : Submission :=
  ⟨steadyBatch, attempts, (List.range attempts).map steadyPolicy.delayFor, .rested refusal⟩

/-- Every attempt fails until the retries are used up. -/
def steadyFailures : List Submission.Turn :=
  [.send, .answer (.failed refusal), .wake, .send, .answer (.failed refusal), .wake,
    .send, .answer (.failed refusal), .wake, .send, .answer (.failed refusal)]

theorem delays_rise_to_longest_steadyFailures :
    0 < steadyPolicy.baseDelay.nanoseconds ∧
    ∃ s report, Submission.Course steadyPolicy steadyBatch steadyFailures false s ∧
      s.stage = .reported report ∧
      report.delays = [.ofMilliseconds 100, .ofMilliseconds 150, .ofMilliseconds 150] ∧
      RisesTo steadyPolicy.maxDelay report.delays := by
  have base : 0 < steadyPolicy.baseDelay.nanoseconds := by decide
  have once : Submission.Course steadyPolicy steadyBatch _ false (steadyRested 1) :=
    .wake (.answer (.failed refusal) (.send .start rfl) rfl) rfl
  have twice : Submission.Course steadyPolicy steadyBatch _ false (steadyRested 2) :=
    .wake (.answer (.failed refusal) (.send once rfl) rfl) rfl
  have thrice : Submission.Course steadyPolicy steadyBatch _ false (steadyRested 3) :=
    .wake (.answer (.failed refusal) (.send twice rfl) rfl) rfl
  have course : Submission.Course steadyPolicy steadyBatch steadyFailures false _ :=
    .answer _ (.send thrice rfl) rfl
  exact ⟨base, _, _, course, rfl, by decide,
    (delays_rise_to_longest steadyPolicy).2.2.2 base _ _ _ _ _ course rfl⟩

end RetryPolicy

end BulkIngest
