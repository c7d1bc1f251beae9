import BulkIngest.Proofs.Number.Rounding
import BulkIngest.Proofs.Progress.Remaining

/-!
The window of a rate. Samples come in the order of their times, so that dropping the old ones from
the front leaves exactly the young ones, whatever was dropped before (`samples_add`). After any run
of updates the window is the history less what is older than five seconds (`samples_afterUpdates`),
and the rate is what was done since the first sample that is left (`window_exact`), which the
display knows but for a few roundings (`Rate.exists_number?`).
-/

namespace BulkIngest

namespace Rate

open Binary64

/-- A span in seconds is rounded five times: its whole seconds, the rest, the unit, their quotient
and the sum. -/
theorem exists_seconds? {nanoseconds : Nat} (short : nanoseconds ≤ 2 ^ 64) :
    ∃ s, seconds? nanoseconds = some s ∧ Near 9 129 s (nanoseconds / 1000000000) := by
  obtain ⟨whole, wholeSome, nearWhole⟩ :=
    exists_ofNat? ((Nat.div_le_self nanoseconds 1000000000).trans short) (by decide)
  obtain ⟨rest, restSome, nearRest⟩ :=
    exists_ofNat? ((Nat.mod_le nanoseconds 1000000000).trans short) (by decide)
  obtain ⟨unit, unitSome, nearUnit⟩ :=
    exists_ofNat? (by decide : 1000000000 ≤ 2 ^ 64) (by decide)
  obtain ⟨part, partSome, nearPart⟩ :=
    nearRest.exists_div? nearUnit (by norm_num) (by decide) (by decide)
  obtain ⟨sum, sumSome, nearSum⟩ :=
    (nearWhole.mono (by decide) (by decide)).exists_add? nearPart (by decide) (by decide)
  have exact : ((nanoseconds / 1000000000 : Nat) : ℚ) +
      (nanoseconds % 1000000000 : Nat) / (1000000000 : Nat) = nanoseconds / 1000000000 := by
    have parts : ((nanoseconds / 1000000000 * 1000000000 + nanoseconds % 1000000000 : Nat) : ℚ) =
      nanoseconds :=
      congrArg _ (Nat.div_add_mod' nanoseconds 1000000000)
    push_cast at parts ⊢
    linarith
  refine ⟨sum, ?_, exact ▸ nearSum⟩
  refine Option.bind_eq_some_iff.mpr ⟨whole, wholeSome, ?_⟩
  refine Option.bind_eq_some_iff.mpr ⟨rest, restSome, ?_⟩
  refine Option.bind_eq_some_iff.mpr ⟨unit, unitSome, ?_⟩
  exact Option.bind_eq_some_iff.mpr ⟨part, partSome, sumSome⟩

/-- The display always has a number for a rate, which is off by no more than one part in `2 ^
49`. -/
theorem exists_number? {rate : Rate} (counted : rate.documents ≤ 2 ^ 64)
    (short : rate.nanoseconds ≤ 2 ^ 64) :
    ∃ number, rate.number? = some number ∧ number.negative = false ∧
      |number.magnitude - rate.perSecond| ≤ rate.perSecond / 2 ^ 49 := by
  obtain still | moving := Nat.eq_zero_or_pos rate.nanoseconds
  · refine ⟨zero false, by rw [number?, if_pos still], rfl, ?_⟩
    simp [perSecond, still, magnitude_zero]
  · obtain ⟨documents, documentsSome, nearDocuments⟩ := exists_ofNat? counted (by decide)
    obtain ⟨seconds, secondsSome, nearSeconds⟩ := exists_seconds? short
    have lasting : (0 : ℚ) < rate.nanoseconds / 1000000000 := by positivity
    obtain ⟨number, numberSome, near⟩ :=
      nearDocuments.exists_div? nearSeconds lasting (by decide) (by decide)
    have exact : (rate.documents : ℚ) / (rate.nanoseconds / 1000000000) = rate.perSecond := by
      rw [perSecond, div_div_eq_mul_div]
    rw [exact] at near
    refine ⟨number, ?_, near.unsigned, ?_⟩
    · rw [number?, if_neg moving.ne']
      refine Option.bind_eq_some_iff.mpr ⟨documents, documentsSome, ?_⟩
      exact Option.bind_eq_some_iff.mpr ⟨seconds, secondsSome, numberSome⟩
    · have close := near.close.mono near.moderate.nonneg (by decide : 14 ≤ 16)
      have low := close.low
      have high := close.high
      rw [abs_le]
      constructor <;> push_cast at low high <;> linarith

end Rate

namespace RateWindow

variable {begun now latest attempted : Nat} {updates history : List RateSample}
    {window : RateWindow}

/-- Samples in the order of their times. -/
def InOrder (samples : List RateSample) : Prop :=
  samples.Pairwise fun earlier later => earlier.time ≤ later.time

/-- The samples that are not older than the window. -/
def recent (now : Nat) (samples : List RateSample) : List RateSample :=
  samples.filter fun sample => now - sample.time ≤ length

/-- Behind a young sample there are young ones only. -/
theorem dropWhile_eq_recent (ordered : InOrder history) (now : Nat) :
    history.dropWhile (isTooOld now) = recent now history := by
  induction history with
  | nil => rfl
  | cons sample rest ih =>
      obtain ⟨later, ordered⟩ := List.pairwise_cons.mp ordered
      have too_old : isTooOld now sample ↔ length < now - sample.time := decide_eq_true_iff
      by_cases old : length < now - sample.time
      · rw [List.dropWhile_cons_of_pos (too_old.mpr old), ih ordered, recent, recent,
          List.filter_cons_of_neg (by rwa [decide_eq_true_eq, Nat.not_le])]
      · rw [List.dropWhile_cons_of_neg (mt too_old.mp old), recent, List.filter_eq_self.mpr]
        intro other mem
        have no_older : sample.time ≤ other.time := by
          obtain rfl | mem := List.mem_cons.mp mem
          · exact Nat.le_refl _
          · exact later other mem
        rw [decide_eq_true_eq]
        omega

/-- What was too old before is too old later. -/
theorem recent_recent (since : latest ≤ now) (history : List RateSample) :
    recent now (recent latest history) = recent now history := by
  rw [recent, recent, List.filter_filter]
  refine List.filter_congr fun sample _ => ?_
  rw [← Bool.decide_and, decide_eq_decide]
  omega

theorem recent_concat (now attempted : Nat) (history : List RateSample) :
    recent now (history ++ [⟨now, attempted⟩]) = recent now history ++ [⟨now, attempted⟩] := by
  simp [recent]

/-- One more sample. It does not matter what the window forgot before. -/
theorem samples_add (held : window.samples = recent latest history) (ordered : InOrder history)
    (since : latest ≤ now) :
    (window.add now attempted).samples = recent now history ++ [⟨now, attempted⟩] := by
  have ordered : InOrder (recent latest history) := ordered.sublist List.filter_sublist
  rw [add, held, dropWhile_eq_recent ordered, recent_recent since]

theorem afterUpdates_concat (begun : Nat) (updates : List RateSample) (update : RateSample) :
    afterUpdates begun (updates ++ [update]) =
      (afterUpdates begun updates).add update.time update.attempted := by
  rw [afterUpdates, List.foldl_concat]
  rfl

/-- After any run of updates the window has what is young enough of all samples so far. -/
theorem samples_afterUpdates (ordered : InOrder (⟨begun, 0⟩ :: updates ++ [⟨now, attempted⟩])) :
    (afterUpdates begun (updates ++ [⟨now, attempted⟩])).samples =
      recent now (⟨begun, 0⟩ :: updates) ++ [⟨now, attempted⟩] := by
  -- for any time of the next sample, since the one before it has dropped what was too old at its
  -- own time
  induction updates using List.reverseRecOn generalizing now attempted with
  | nil =>
      obtain ⟨past, -, before⟩ := List.pairwise_append.mp ordered
      have held : (afterUpdates begun []).samples = recent begun [⟨begun, 0⟩] :=
        (recent_concat begun 0 []).symm
      rw [afterUpdates_concat]
      exact samples_add held past (before _ List.mem_cons_self _ List.mem_cons_self)
  | append_singleton updates update ih =>
      obtain ⟨past, -, before⟩ := List.pairwise_append.mp ordered
      have held : (afterUpdates begun (updates ++ [update])).samples =
          recent update.time (⟨begun, 0⟩ :: (updates ++ [update])) :=
        (ih past).trans (recent_concat update.time update.attempted (⟨begun, 0⟩ :: updates)).symm
      have mem : update ∈ (⟨begun, 0⟩ :: (updates ++ [update]) : List RateSample) :=
        List.mem_cons_of_mem _ List.mem_concat_self
      rw [afterUpdates_concat]
      exact samples_add held past (before update mem _ List.mem_cons_self)

/-- What the rate is of: all that was done since the first sample in the window, which is none that
comes after the new one. -/
theorem rate_of_oldest {oldest : RateSample} {younger : List RateSample}
    (samples : (window.add now attempted).samples = oldest :: younger) (since : oldest.time ≤ now) :
    (window.measure now attempted).1.perSecond =
      if oldest.time = now then 0
      else (attempted - oldest.attempted : Nat) /
        (((now - oldest.time : Nat) : ℚ) / 1000000000) := by
  simp only [measure, rate, samples]
  split
  · rename_i lasting
    rw [if_neg lasting.ne, Rate.perSecond, div_div_eq_mul_div]
  · rename_i instant
    rw [if_pos (by omega)]
    simp [Rate.perSecond, Rate.none]

/-- After every update the window has, in the order of their times, exactly the earlier samples that
are no older than five seconds and then the new one. The rate is what was attempted since the first
of them over the time since then, or zero if no time has passed. The display has a number for it,
rounded a few times. -/
theorem window_exact (begun now attempted : Nat) (updates : List RateSample)
    (ordered : (begun :: updates.map RateSample.time ++ [now]).Pairwise (· ≤ ·)) :
    let rate := ((afterUpdates begun updates).measure now attempted).1
    let window := ((afterUpdates begun updates).measure now attempted).2
    window = afterUpdates begun (updates ++ [⟨now, attempted⟩]) ∧
      window.samples.Pairwise (fun earlier later => earlier.time ≤ later.time) ∧
      window.samples =
        (⟨begun, 0⟩ :: updates).filter (fun sample => now - sample.time ≤ 5 * 1000000000) ++
          [⟨now, attempted⟩] ∧
      (∃ oldest, window.samples.head? = some oldest ∧
        rate.perSecond =
          if oldest.time = now then 0
          else (attempted - oldest.attempted : Nat) /
            (((now - oldest.time : Nat) : ℚ) / 1000000000)) ∧
      (attempted < UInt64.size → ∃ number, rate.number? = some number ∧ number.negative = false ∧
        |number.magnitude - rate.perSecond| ≤ rate.perSecond / 2 ^ 49) := by
  intro rate window
  have inOrder : InOrder (⟨begun, 0⟩ :: updates ++ [⟨now, attempted⟩]) := by
    rw [InOrder, ← List.pairwise_map (f := RateSample.time)]
    simpa using ordered
  have next : window = afterUpdates begun (updates ++ [⟨now, attempted⟩]) :=
    (afterUpdates_concat begun updates ⟨now, attempted⟩).symm
  have samples : window.samples = recent now (⟨begun, 0⟩ :: updates) ++ [⟨now, attempted⟩] := by
    rw [next, samples_afterUpdates inOrder]
  have among : window.samples.Sublist (⟨begun, 0⟩ :: updates ++ [⟨now, attempted⟩]) := by
    rw [samples]
    exact List.filter_sublist.append_right _
  have kept : InOrder window.samples := inOrder.sublist among
  refine ⟨next, kept, samples, ?_, ?_⟩
  · obtain ⟨oldest, younger, first, -⟩ := exists_oldest now attempted (afterUpdates begun updates)
    have mem : oldest ∈ window.samples := first ▸ List.mem_cons_self
    have since : oldest.time ≤ now := by
      obtain ⟨-, -, before⟩ := List.pairwise_append.mp inOrder
      obtain past | new := List.mem_append.mp (among.subset mem)
      · exact before oldest past _ List.mem_cons_self
      · rw [List.mem_singleton.mp new]
    exact ⟨oldest, congrArg List.head? first, rate_of_oldest first since⟩
  · intro counted
    obtain ⟨done, short⟩ := measure_bounds now attempted (afterUpdates begun updates)
    exact Rate.exists_number? (done.trans counted.le) (short.trans (by decide))

/-- Two samples at one instant, exactly five seconds before the last one, are kept; the start is
not. -/
theorem window_exact_sparseUpdates :
    let updates : List RateSample := [⟨2000000000, 3⟩, ⟨2000000000, 4⟩, ⟨6000000000, 9⟩]
    let measured := (afterUpdates 0 updates).measure 7000000000 10
    (0 :: updates.map RateSample.time ++ [7000000000]).Pairwise (· ≤ ·) ∧ 10 < UInt64.size ∧
      measured.2.samples = updates ++ [⟨7000000000, 10⟩] ∧ measured.1.perSecond = 7 / 5 ∧
      ∃ number, measured.1.number? = some number ∧ |number.magnitude - 7 / 5| ≤ 7 / 5 / 2 ^ 49 := by
  intro updates measured
  have ordered : (0 :: updates.map RateSample.time ++ [7000000000]).Pairwise (· ≤ ·) := by decide
  have counted : 10 < UInt64.size := by decide
  obtain ⟨-, -, samples, ⟨oldest, first, exact⟩, rounded⟩ :=
    window_exact 0 7000000000 10 updates ordered
  have samples : measured.2.samples = updates ++ [⟨7000000000, 10⟩] := samples
  obtain rfl : oldest = ⟨2000000000, 3⟩ := by
    rw [samples] at first
    exact (Option.some.inj first).symm
  have exact : measured.1.perSecond = 7 / 5 := by
    rw [exact, if_neg (by decide)]
    norm_num
  obtain ⟨number, rounds, -, near⟩ := rounded counted
  exact ⟨ordered, counted, samples, exact, number, rounds, exact ▸ near⟩

/-- After a pause that is longer than the window only the new sample is left, and it has no rate
yet. -/
example :
    (afterUpdates 0 [⟨1000000000, 4⟩]).measure 7000000000 9 =
      (.none, ⟨[⟨7000000000, 9⟩]⟩) := by decide

end RateWindow

end BulkIngest
