import BulkIngest.Progress.Display
import Mathlib.Algebra.Order.Field.Basic
import Mathlib.Data.Rat.Cast.Order
import Mathlib.Tactic.FieldSimp
import Mathlib.Tactic.Positivity

/-!
The time that is left, in exact arithmetic. The slowest rate above zero that the samples can give is
one document in the length of the window, and it is given only when one document was attempted at
all (`RateWindow.measure_bounds`). So the longest time is that for all documents but one at that
rate, and it is a span of time for every rate exactly if it is one there.
-/

namespace BulkIngest

namespace Rate

variable {rate : Rate}

/-- Documents per second. -/
def perSecond (rate : Rate) : ℚ := rate.documents * 1000000000 / rate.nanoseconds

/-- The seconds that `left` documents take at this rate. -/
def secondsFor (rate : Rate) (left : Nat) : ℚ := left / rate.perSecond

theorem perSecond_pos_iff : 0 < rate.perSecond ↔ 0 < rate.documents ∧ 0 < rate.nanoseconds := by
  constructor
  · intro positive
    constructor
    · refine Nat.pos_of_ne_zero fun idle => ?_
      simp [perSecond, idle] at positive
    · refine Nat.pos_of_ne_zero fun instant => ?_
      simp [perSecond, instant] at positive
  · rintro ⟨done, lasting⟩
    unfold perSecond
    positivity

/-- A comparison of whole numbers. -/
theorem secondsFor_lt_iff (positive : 0 < rate.perSecond) (left limit : Nat) :
    rate.secondsFor left < limit ↔
      left * rate.nanoseconds < limit * (rate.documents * 1000000000) := by
  obtain ⟨-, lasting⟩ := perSecond_pos_iff.mp positive
  have lasting : (0 : ℚ) < rate.nanoseconds := by exact_mod_cast lasting
  rw [secondsFor, div_lt_iff₀ positive, perSecond, mul_div_assoc', lt_div_iff₀ lasting]
  exact_mod_cast Iff.rfl

end Rate

namespace RateWindow

variable {begun now attempted : Nat} {updates : List RateSample}

/-- The window after some updates; the display begins with nothing attempted. -/
def afterUpdates (begun : Nat) (updates : List RateSample) : RateWindow :=
  updates.foldl (fun window update => window.add update.time update.attempted) (start begun)

/-- The first sample that was kept is young, or it is the new one. -/
theorem exists_oldest (now attempted : Nat) (window : RateWindow) :
    ∃ oldest younger, (window.add now attempted).samples = oldest :: younger ∧
      now - oldest.time ≤ length := by
  unfold add
  cases kept : window.samples.dropWhile (isTooOld now) with
  | nil => exact ⟨⟨now, attempted⟩, [], rfl, by simp [length]⟩
  | cons oldest younger =>
      refine ⟨oldest, younger ++ [⟨now, attempted⟩], rfl, ?_⟩
      have young := List.head?_dropWhile_not (isTooOld now) window.samples
      simp only [kept, List.head?_cons, isTooOld] at young
      simpa using young

/-- Every rate is that of no more documents than were attempted, in no more than the window's
length. -/
theorem measure_bounds (now attempted : Nat) (window : RateWindow) :
    (window.measure now attempted).1.documents ≤ attempted ∧
      (window.measure now attempted).1.nanoseconds ≤ length := by
  obtain ⟨oldest, younger, samples, young⟩ := exists_oldest now attempted window
  simp only [measure, rate, samples]
  split
  · exact ⟨Nat.sub_le _ _, young⟩
  · exact ⟨Nat.zero_le _, Nat.zero_le _⟩

/-- At any rate above zero, no documents take longer than at one document in the length of the
window. -/
theorem secondsFor_measure_lt (total : Nat) (window : RateWindow)
    (positive : 0 < (window.measure now attempted).1.perSecond)
    (few : 5 * (total - 1) < UInt64.size) :
    (window.measure now attempted).1.secondsFor (total - attempted) < UInt64.size := by
  obtain ⟨done, short⟩ := measure_bounds now attempted window
  rw [Rate.secondsFor_lt_iff positive]
  obtain ⟨worked, -⟩ := Rate.perSecond_pos_iff.mp positive
  generalize (window.measure now attempted).1 = rate at done short worked
  calc (total - attempted) * rate.nanoseconds
      ≤ (total - 1) * length := Nat.mul_le_mul (by omega) short
    _ < UInt64.size * (1 * 1000000000) := by simp only [length]; omega
    _ ≤ UInt64.size * (rate.documents * 1000000000) := by
        exact Nat.mul_le_mul_left _ (Nat.mul_le_mul_right _ worked)

/-- One document in the first five seconds after the start. -/
theorem measure_slowest : ((afterUpdates 0 []).measure length 1).1 = ⟨1, length⟩ := by decide

theorem slowest_positive : 0 < ((afterUpdates 0 []).measure length 1).1.perSecond := by
  rw [Rate.perSecond_pos_iff, measure_slowest]
  decide

theorem secondsFor_slowest_lt_iff (left : Nat) :
    ((afterUpdates 0 []).measure length 1).1.secondsFor left < UInt64.size ↔
      5 * left < UInt64.size := by
  rw [Rate.secondsFor_lt_iff slowest_positive, measure_slowest]
  simp only [length]
  omega

/-- With `total` documents, the time that is left is a span of time after every run of updates,
whatever was attempted when, if and only if all documents but one fit at one document in five
seconds. -/
theorem remaining_fits_iff (total : UInt64) :
    (∀ begun updates now attempted,
      (begun :: updates.map RateSample.time ++ [now]).Pairwise (· ≤ ·) →
      attempted < total.toNat →
      0 < ((afterUpdates begun updates).measure now attempted).1.perSecond →
      ((afterUpdates begun updates).measure now attempted).1.secondsFor (total.toNat - attempted) <
        UInt64.size) ↔
    5 * (total.toNat - 1) < UInt64.size := by
  constructor
  · intro fits
    by_cases several : 1 < total.toNat
    · exact (secondsFor_slowest_lt_iff _).mp
        (fits 0 [] length 1 (by decide) several slowest_positive)
    · rw [Nat.sub_eq_zero_of_le (by omega)]
      decide
  · intro few begun updates now attempted _ _ positive
    exact secondsFor_measure_lt total.toNat _ positive few

/-- Of the largest number of documents one was attempted in the first five seconds. In exact
arithmetic the others take too long, and they do so in the arithmetic of the display, which then has
nothing to show. -/
theorem not_all_remaining_fit :
    (¬ ∀ (total : UInt64) (begun now attempted : Nat) (updates : List RateSample),
      (begun :: updates.map RateSample.time ++ [now]).Pairwise (· ≤ ·) →
      attempted < total.toNat →
      0 < ((afterUpdates begun updates).measure now attempted).1.perSecond →
      ((afterUpdates begun updates).measure now attempted).1.secondsFor (total.toNat - attempted) <
        UInt64.size) ∧
    ((afterUpdates 0 []).measure length 1).1.number?.bind
      (ProgressDisplay.outlook ⟨"idx", some (UInt64.size - 1), ⟨1, 1, 0⟩⟩ ·) = none := by
  constructor
  · intro all
    have few := all (-1) 0 length 1 [] (by decide) (by decide) slowest_positive
    rw [secondsFor_slowest_lt_iff] at few
    exact absurd few (by decide)
  · decide +kernel

end RateWindow

end BulkIngest
