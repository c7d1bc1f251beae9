import BulkIngest.Number.Binary64
import Mathlib.Algebra.Order.Field.Basic
import Mathlib.Data.Rat.Cast.Order
import Mathlib.Tactic.Linarith
import Mathlib.Tactic.Positivity
import Mathlib.Tactic.Ring

/-!
How far rounded numbers are from the exact ones. One rounding in the normal range is off by no more
than one part in `2 ^ 53` (`exists_ofRatio?`). Errors add up along a calculation, and so do the
powers of two that the exact values stay within, so that a calculation with a few steps has a result
and it is near the exact one (`exists_near` and the operations behind it).
-/

namespace BulkIngest

/-- A quotient is rounded by no more than a half. -/
theorem roundHalfEven_bounds (numerator : Nat) {denominator : Nat} (positive : 0 < denominator) :
    2 * numerator ≤ 2 * (roundHalfEven numerator denominator * denominator) + denominator ∧
      2 * (roundHalfEven numerator denominator * denominator) ≤ 2 * numerator + denominator := by
  have parts := Nat.div_add_mod' numerator denominator
  have rest := Nat.mod_lt numerator positive
  simp only [roundHalfEven]
  split
  · omega
  · split
    · obtain even | odd := Nat.mod_two_eq_zero_or_one (numerator / denominator)
      · rw [even, Nat.add_zero]
        omega
      · rw [odd, Nat.add_mul]
        omega
    · rw [Nat.add_mul]
      omega

theorem roundHalfEven_zero (denominator : Nat) : roundHalfEven 0 denominator = 0 := by
  obtain rfl | positive := Nat.eq_zero_or_pos denominator
  · rfl
  · simp [roundHalfEven, positive]

namespace Binary64

variable {num den : Nat}

theorem scale_pos : 0 < scale := by decide +kernel

/-- The size of a number, whatever its sign. -/
def magnitude (x : Binary64) : ℚ := x.numerator / scale

theorem magnitude_zero (negative : Bool) : (zero negative).magnitude = 0 := by
  rw [magnitude, numerator, zero, Nat.zero_mul, Nat.cast_zero, zero_div]

/-- The exponent of a quotient in the normal range, where the leading one of the mantissa is its
first of 53 bits. -/
structure Orders (scaled den order : Nat) : Prop where
  log2 : (scaled / den).log2 - 52 = order
  leading : 2 ^ 52 * (den * 2 ^ order) ≤ scaled
  bounded : order ≤ 2044

theorem exists_order {scaled : Nat} (sized : 0 < den) (normal : 2 ^ 52 * den ≤ scaled)
    (finite : scaled < 2 ^ 2097 * den) : ∃ order, Orders scaled den order := by
  have large : 2 ^ 52 ≤ scaled / den := (Nat.le_div_iff_mul_le sized).mpr normal
  have small : scaled / den < 2 ^ 2097 := (Nat.div_lt_iff_lt_mul sized).mpr finite
  have nonzero : scaled / den ≠ 0 := Nat.ne_of_gt (Nat.lt_of_lt_of_le (by decide) large)
  have above := (Nat.log2_lt nonzero).mpr small
  obtain ⟨order, log2⟩ := Nat.exists_eq_add_of_le ((Nat.le_log2 nonzero).mpr large)
  refine ⟨order, by omega, ?_, by omega⟩
  calc 2 ^ 52 * (den * 2 ^ order) = 2 ^ (52 + order) * den := by rw [Nat.pow_add]; ac_rfl
    _ ≤ scaled / den * den := Nat.mul_le_mul_right den (log2 ▸ Nat.log2_self_le nonzero)
    _ ≤ scaled := Nat.div_mul_le_self scaled den

/-- `x` is `q` up to `count` parts in `2 ^ 53`. -/
structure Close (count : Nat) (x q : ℚ) : Prop where
  low : (2 ^ 53 - count) * q ≤ 2 ^ 53 * x
  high : 2 ^ 53 * x ≤ (2 ^ 53 + count) * q

namespace Close

variable {j k : Nat} {x y p q : ℚ}

theorem refl (q : ℚ) : Close 0 q q := by
  constructor <;> simp

theorem mono (close : Close j x q) (nonneg : 0 ≤ q) (le : j ≤ k) : Close k x q := by
  have more : (j : ℚ) * q ≤ k * q := mul_le_mul_of_nonneg_right (Nat.cast_le.mpr le) nonneg
  constructor
  · linarith [close.low]
  · linarith [close.high]

theorem add (left : Close k x p) (right : Close k y q) : Close k (x + y) (p + q) := by
  constructor
  · linarith [left.low, right.low]
  · linarith [left.high, right.high]

theorem pos (close : Close k x q) (few : k < 2 ^ 53) (positive : 0 < q) : 0 < x := by
  have few : (k : ℚ) < 2 ^ 53 := by exact_mod_cast few
  have low : 0 < (2 ^ 53 - k) * q := mul_pos (by linarith) positive
  linarith [close.low]

/-- The errors add up, and their product is less than one part more. -/
theorem trans (outer : Close j x y) (inner : Close k y q) (nonneg : 0 ≤ q)
    (few : j + k + 1 ≤ 2 ^ 26) : Close (j + k + 1) x q := by
  have small : (j : ℚ) ≤ 2 ^ 53 := by exact_mod_cast (by omega : j ≤ 2 ^ 53)
  have slight : (j : ℚ) * k ≤ 2 ^ 26 * 2 ^ 26 := by
    exact_mod_cast Nat.mul_le_mul (by omega : j ≤ 2 ^ 26) (by omega : k ≤ 2 ^ 26)
  have product := mul_le_mul_of_nonneg_right slight nonneg
  have product_nonneg : 0 ≤ (j : ℚ) * k * q := by positivity
  constructor <;> push_cast <;> refine le_of_mul_le_mul_left ?_ (by positivity : (0 : ℚ) < 2 ^ 53)
  · calc (2 : ℚ) ^ 53 * ((2 ^ 53 - (j + k + 1)) * q)
        ≤ (2 ^ 53 - j) * ((2 ^ 53 - k) * q) := by linarith
      _ ≤ (2 ^ 53 - j) * (2 ^ 53 * y) := mul_le_mul_of_nonneg_left inner.low (by linarith)
      _ ≤ 2 ^ 53 * (2 ^ 53 * x) := by linarith [outer.low]
  · calc (2 : ℚ) ^ 53 * (2 ^ 53 * x)
        ≤ (2 ^ 53 + j) * (2 ^ 53 * y) := by linarith [outer.high]
      _ ≤ (2 ^ 53 + j) * ((2 ^ 53 + k) * q) := mul_le_mul_of_nonneg_left inner.high (by positivity)
      _ ≤ 2 ^ 53 * ((2 ^ 53 + (j + k + 1)) * q) := by linarith

/-- The errors of both sides of a quotient add up, and what they do to each other is one part
more. -/
theorem div (above : Close j x p) (below : Close k y q) (nonneg : 0 ≤ p) (positive : 0 < q)
    (few : j + k + 1 ≤ 2 ^ 26) : Close (j + k + 1) (x / y) (p / q) := by
  have divisor := below.pos (by omega) positive
  have small : (j : ℚ) + k + 1 ≤ 2 ^ 26 := by exact_mod_cast few
  have slight : (k : ℚ) * (j + k + 1) ≤ 2 ^ 26 * 2 ^ 26 := by
    exact_mod_cast Nat.mul_le_mul (by omega : k ≤ 2 ^ 26) few
  have product := mul_le_mul_of_nonneg_right slight (mul_nonneg nonneg positive.le)
  have product_nonneg : 0 ≤ (k : ℚ) * (j + k + 1) * (p * q) := by positivity
  have both_nonneg : 0 ≤ p * q := by positivity
  constructor <;> push_cast <;> rw [← mul_div_assoc, ← mul_div_assoc]
  · rw [div_le_div_iff₀ positive divisor]
    refine le_of_mul_le_mul_left ?_ (by positivity : (0 : ℚ) < 2 ^ 53)
    calc 2 ^ 53 * ((2 ^ 53 - (j + k + 1)) * p * y)
        = (2 ^ 53 - (j + k + 1)) * p * (2 ^ 53 * y) := by ring
      _ ≤ (2 ^ 53 - (j + k + 1)) * p * ((2 ^ 53 + k) * q) :=
          mul_le_mul_of_nonneg_left below.high (mul_nonneg (by linarith) nonneg)
      _ ≤ 2 ^ 53 * ((2 ^ 53 - j) * p * q) := by linarith
      _ ≤ 2 ^ 53 * (2 ^ 53 * x * q) := by
          linarith [mul_le_mul_of_nonneg_right above.low positive.le]
  · rw [div_le_div_iff₀ divisor positive]
    refine le_of_mul_le_mul_left ?_ (by positivity : (0 : ℚ) < 2 ^ 53)
    calc 2 ^ 53 * (2 ^ 53 * x * q)
        ≤ 2 ^ 53 * ((2 ^ 53 + j) * p * q) := by
          linarith [mul_le_mul_of_nonneg_right above.high positive.le]
      _ ≤ (2 ^ 53 + (j + k + 1)) * p * ((2 ^ 53 - k) * q) := by linarith
      _ ≤ (2 ^ 53 + (j + k + 1)) * p * (2 ^ 53 * y) :=
          mul_le_mul_of_nonneg_left below.low (by positivity)
      _ = 2 ^ 53 * ((2 ^ 53 + (j + k + 1)) * p * y) := by ring

end Close

/-- Cross products of whole numbers compare a rounded quotient with the exact one. -/
theorem close_of_bounds {x : Binary64} (sized : 0 < den)
    (low : 2 ^ 53 * (num * scale) ≤ 2 ^ 53 * (x.numerator * den) + num * scale)
    (high : 2 ^ 53 * (x.numerator * den) ≤ 2 ^ 53 * (num * scale) + num * scale) :
    Close 1 x.magnitude (num / den) := by
  have sized : (0 : ℚ) < den := Nat.cast_pos.mpr sized
  have scaled : (0 : ℚ) < scale := Nat.cast_pos.mpr scale_pos
  have low : (2 : ℚ) ^ 53 * (num * scale) ≤ 2 ^ 53 * (x.numerator * den) + num * scale := by
    exact_mod_cast low
  have high : (2 : ℚ) ^ 53 * (x.numerator * den) ≤ 2 ^ 53 * (num * scale) + num * scale := by
    exact_mod_cast high
  constructor <;> rw [magnitude, ← mul_div_assoc, ← mul_div_assoc]
  · rw [div_le_div_iff₀ sized scaled, Nat.cast_one]
    linarith
  · rw [div_le_div_iff₀ scaled sized, Nat.cast_one]
    linarith

/-- Half a unit in the last place is no more than one part in `2 ^ 53` of the whole. -/
theorem exists_ofRatio? (negative : Bool) (sized : 0 < den) (normal : 2 ^ 52 * den ≤ num * scale)
    (finite : num * scale < 2 ^ 2097 * den) :
    ∃ x, ofRatio? negative num den = some x ∧ x.negative = negative ∧
      Close 1 x.magnitude (num / den) := by
  obtain ⟨order, orders⟩ := exists_order sized normal finite
  have leading := orders.leading
  obtain ⟨low, high⟩ := roundHalfEven_bounds (num * scale)
    (Nat.mul_pos sized (Nat.two_pow_pos order))
  simp only [ofRatio?, orders.log2, Nat.pow_eq]
  generalize roundHalfEven (num * scale) (den * 2 ^ order) = mantissa at low high ⊢
  have close (x : Binary64) (same : x.numerator = mantissa * 2 ^ order) :
      Close 1 x.magnitude (num / den) := by
    have units : x.numerator * den = mantissa * (den * 2 ^ order) := by rw [same]; ac_rfl
    rw [← units] at low high
    exact close_of_bounds sized (by omega) (by omega)
  -- a mantissa that was rounded up to `2 ^ 53` is halved, and the exponent makes up for that
  split
  · rename_i full
    rw [if_pos (Nat.succ_le_succ orders.bounded)]
    refine ⟨_, rfl, rfl, close _ ?_⟩
    simp only [full, numerator, Nat.pow_eq, Nat.pow_succ]
    omega
  · rw [if_pos (Nat.le_succ_of_le orders.bounded)]
    exact ⟨_, rfl, rfl, close _ rfl⟩

/-- Zero, or not more than `bits` powers of two from one. -/
def Moderate (bits : Nat) (q : ℚ) : Prop := q = 0 ∨ 1 ≤ q * 2 ^ bits ∧ q ≤ 2 ^ bits

namespace Moderate

variable {a b bits k : Nat} {x p q : ℚ}

theorem nonneg (moderate : Moderate bits q) : 0 ≤ q := by
  obtain rfl | ⟨low, -⟩ := moderate
  · exact le_refl 0
  · by_contra negative
    have := mul_neg_of_neg_of_pos (not_le.mp negative) (by positivity : (0 : ℚ) < 2 ^ bits)
    linarith

theorem natCast {n : Nat} (small : n ≤ 2 ^ bits) : Moderate bits n := by
  obtain rfl | positive := Nat.eq_zero_or_pos n
  · exact .inl Nat.cast_zero
  · right
    exact ⟨by exact_mod_cast Nat.mul_pos positive (Nat.two_pow_pos bits), by exact_mod_cast small⟩

theorem mono (moderate : Moderate a q) (le : a ≤ b) : Moderate b q := by
  have powers : (2 : ℚ) ^ a ≤ 2 ^ b := pow_le_pow_right₀ one_le_two le
  have nonneg := moderate.nonneg
  obtain rfl | ⟨low, high⟩ := moderate
  · exact .inl rfl
  · exact .inr ⟨low.trans (mul_le_mul_of_nonneg_left powers nonneg), high.trans powers⟩

theorem add (left : Moderate bits p) (right : Moderate bits q) : Moderate (bits + 1) (p + q) := by
  obtain rfl | ⟨low, high⟩ := left
  · rw [zero_add]
    exact right.mono (Nat.le_succ bits)
  · obtain rfl | ⟨low', high'⟩ := right
    · rw [add_zero]
      exact mono (.inr ⟨low, high⟩) (Nat.le_succ bits)
    · rw [Moderate, pow_succ]
      exact .inr ⟨by linarith, by linarith⟩

theorem div (above : Moderate a p) (below : Moderate b q) : Moderate (a + b) (p / q) := by
  have nonneg := below.nonneg
  obtain rfl | ⟨low, high⟩ := above
  · exact .inl (zero_div q)
  · obtain rfl | ⟨low', high'⟩ := below
    · exact .inl (div_zero p)
    · have positive : 0 < q := nonneg.lt_of_ne fun zero => by
        rw [← zero] at low'
        linarith
      rw [Moderate, pow_add, div_mul_eq_mul_div, le_div_iff₀ positive, div_le_iff₀ positive]
      right
      constructor
      · calc 1 * q ≤ 1 * 2 ^ b := by linarith
          _ ≤ p * 2 ^ a * 2 ^ b := mul_le_mul_of_nonneg_right low (by positivity)
          _ = p * (2 ^ a * 2 ^ b) := mul_assoc _ _ _
      · calc p ≤ 2 ^ a * 1 := by linarith
          _ ≤ 2 ^ a * (q * 2 ^ b) := mul_le_mul_of_nonneg_left low' (by positivity)
          _ = 2 ^ a * 2 ^ b * q := by ring

/-- A value that is close to a moderate one is moderate. -/
theorem of_close (moderate : Moderate bits q) (close : Close k x q) (few : k ≤ 2 ^ 52) :
    Moderate (bits + 1) x := by
  have few : (k : ℚ) ≤ 2 ^ 52 := by exact_mod_cast few
  have nonneg := moderate.nonneg
  have error : (k : ℚ) * q ≤ 2 ^ 52 * q := mul_le_mul_of_nonneg_right few nonneg
  have half : q ≤ 2 * x := by linarith [close.low]
  have twice : x ≤ 2 * q := by linarith [close.high]
  obtain rfl | ⟨low, high⟩ := moderate
  · exact .inl (by linarith)
  · have scaled := mul_le_mul_of_nonneg_right half (by positivity : (0 : ℚ) ≤ 2 ^ bits)
    exact .inr ⟨by rw [pow_succ]; linarith, by rw [pow_succ]; linarith⟩

end Moderate

/-- A number that is not negative and stands for the exact value `q`, with the error so far and the
bound on the size of `q`. -/
structure Near (count bits : Nat) (x : Binary64) (q : ℚ) : Prop where
  unsigned : x.negative = false
  close : Close count x.magnitude q
  moderate : Moderate bits q

section Operations

variable {j k a b bits : Nat} {x y : Binary64} {p q : ℚ}

theorem ofRatio?_zero (negative : Bool) (den : Nat) :
    ofRatio? negative 0 den = some (zero negative) := by
  simp [ofRatio?, roundHalfEven_zero, zero]

theorem scale_bounds (small : bits ≤ 1022) :
    2 ^ 52 * 2 ^ bits ≤ scale ∧ 2 ^ bits * scale < 2 ^ 2097 := by
  have powers : 2 ^ bits ≤ 2 ^ 1022 := pow_le_pow_right₀ one_le_two small
  exact ⟨(Nat.mul_le_mul_left _ powers).trans (by decide +kernel),
    (Nat.mul_le_mul_right scale powers).trans_lt (by decide +kernel)⟩

theorem exists_rounded (sized : 0 < den) (moderate : Moderate bits ((num : ℚ) / den))
    (small : bits ≤ 1022) :
    ∃ x, ofRatio? false num den = some x ∧ x.negative = false ∧
      Close 1 x.magnitude (num / den) := by
  have sized' : (0 : ℚ) < den := Nat.cast_pos.mpr sized
  obtain ⟨precise, limited⟩ := scale_bounds small
  obtain nothing | ⟨low, high⟩ := moderate
  · obtain rfl : num = 0 := by simpa [sized'.ne'] using nothing
    refine ⟨zero false, ofRatio?_zero false den, rfl, ?_⟩
    constructor <;> simp [magnitude_zero]
  · rw [div_mul_eq_mul_div, le_div_iff₀ sized', one_mul] at low
    rw [div_le_iff₀ sized'] at high
    have low : den ≤ num * 2 ^ bits := by exact_mod_cast low
    have high : num ≤ 2 ^ bits * den := by exact_mod_cast high
    have normal : 2 ^ 52 * den ≤ num * scale :=
      calc 2 ^ 52 * den ≤ 2 ^ 52 * (num * 2 ^ bits) := Nat.mul_le_mul_left _ low
        _ = num * (2 ^ 52 * 2 ^ bits) := Nat.mul_left_comm _ _ _
        _ ≤ num * scale := Nat.mul_le_mul_left num precise
    have finite : num * scale < 2 ^ 2097 * den :=
      calc num * scale ≤ 2 ^ bits * den * scale := Nat.mul_le_mul_right scale high
        _ = 2 ^ bits * scale * den := Nat.mul_right_comm _ _ _
        _ < 2 ^ 2097 * den := Nat.mul_lt_mul_of_pos_right limited sized
    exact exists_ofRatio? false sized normal finite

/-- One rounding of a value that is near the exact one already. -/
theorem exists_near (sized : 0 < den) (close : Close k ((num : ℚ) / den) q)
    (moderate : Moderate bits q) (few : k + 2 ≤ 2 ^ 26) (small : bits < 1022) :
    ∃ x, ofRatio? false num den = some x ∧ Near (k + 2) bits x q := by
  obtain ⟨x, rounded, unsigned, once⟩ :=
    exists_rounded sized (moderate.of_close close (by omega)) small
  have total := once.trans close moderate.nonneg (by omega)
  rw [show 1 + k + 1 = k + 2 by omega] at total
  exact ⟨x, rounded, unsigned, total, moderate⟩

theorem exists_ofNat? {n : Nat} (small : n ≤ 2 ^ bits) (few : bits < 1022) :
    ∃ x, ofNat? n = some x ∧ Near 2 bits x n := by
  have close : Close 0 ((n : ℚ) / (1 : Nat)) n := by
    rw [Nat.cast_one, div_one]
    exact .refl n
  exact exists_near Nat.one_pos close (.natCast small) (by decide) few

theorem Near.mono (near : Near j a x q) (parts : j ≤ k) (powers : a ≤ b) : Near k b x q :=
  ⟨near.unsigned, near.close.mono near.moderate.nonneg parts, near.moderate.mono powers⟩

theorem Near.exists_add? (left : Near k a x p) (right : Near k a y q) (few : k + 2 ≤ 2 ^ 26)
    (small : a + 1 < 1022) : ∃ z, x.add? y = some z ∧ Near (k + 2) (a + 1) z (p + q) := by
  have close := left.close.add right.close
  rw [magnitude, magnitude, ← add_div] at close
  exact exists_near scale_pos (by exact_mod_cast close) (left.moderate.add right.moderate) few small

theorem Near.exists_div? (above : Near j a x p) (below : Near k b y q) (divisor : 0 < q)
    (few : j + k + 3 ≤ 2 ^ 26) (small : a + b < 1022) :
    ∃ z, x.div? y = some z ∧ Near (j + k + 3) (a + b) z (p / q) := by
  have scaled : (scale : ℚ) ≠ 0 := (Nat.cast_pos.mpr scale_pos).ne'
  have close := above.close.div below.close above.moderate.nonneg divisor (by omega)
  have sized : 0 < y.numerator := by
    have positive := below.close.pos (by omega) divisor
    refine Nat.pos_of_ne_zero fun nothing => ?_
    rw [magnitude, nothing, Nat.cast_zero, zero_div] at positive
    exact lt_irrefl 0 positive
  rw [magnitude, magnitude, div_div_div_cancel_right₀ scaled] at close
  rw [div?, above.unsigned, below.unsigned]
  exact exists_near sized close (above.moderate.div below.moderate) few small

end Operations

end Binary64

end BulkIngest
