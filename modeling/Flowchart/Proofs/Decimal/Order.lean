import Flowchart.Decimal.Binary64
import Mathlib.Algebra.Order.Field.Basic
import Mathlib.Algebra.Order.Ring.Rat
import Mathlib.Algebra.Field.Rat
import Mathlib.Order.Monotone.Basic

/-!
# Binary numbers compare as what they are

A binary number is compared by its position on the number line. This is
the order of the rational numbers that it stands for
(`position_lt_iff`): a magnitude counts the smallest unit as often as
`unitsOf` says, and the count grows with every position.
-/

namespace Flowchart

namespace Binary64

variable {x y : Binary64} {m : Nat}

/-- **The rational number** that a binary number is. -/
def value (x : Binary64) : ℚ :=
  (if x.negative then -1 else 1) * ((x.numerator : ℚ) / x.denominator)

/-! ## Magnitudes in the smallest unit -/

/-- How often a magnitude holds the smallest positive one. -/
def unitsOf (magnitude : Nat) : Nat :=
  (if magnitude < topBit then magnitude else topBit + magnitude % topBit) *
    2 ^ (magnitude / topBit - 1)

theorem unitsOf_of_lt (h : m < topBit) : unitsOf m = m := by
  rw [unitsOf, if_pos h, Nat.div_eq_of_lt h, Nat.zero_sub, Nat.pow_zero, Nat.mul_one]

theorem unitsOf_of_le (h : topBit ≤ m) :
    unitsOf m = (topBit + m % topBit) * 2 ^ (m / topBit - 1) := by
  rw [unitsOf, if_neg (Nat.not_lt.2 h)]

/-- **One position more** is one step more, which is as large as the scale
makes it. -/
theorem unitsOf_succ (m : Nat) : unitsOf (m + 1) = unitsOf m + 2 ^ (m / topBit - 1) := by
  rcases Nat.lt_trichotomy (m + 1) topBit with h | h | h
  · have hscale : m / topBit - 1 = 0 := by unfold topBit at *; omega
    rw [unitsOf_of_lt h, unitsOf_of_lt (by omega), hscale, Nat.pow_zero]
  · -- the first significand with its highest bit
    have hscale : m / topBit - 1 = 0 := by unfold topBit at *; omega
    have hnext : (m + 1) / topBit - 1 = 0 ∧ (m + 1) % topBit = 0 := by unfold topBit at *; omega
    rw [unitsOf_of_le (by omega), unitsOf_of_lt (by omega), hscale, hnext.1, hnext.2, Nat.pow_zero]
    omega
  · rw [unitsOf_of_le (by omega), unitsOf_of_le (by omega)]
    by_cases hlast : m % topBit + 1 = topBit
    · -- the first significand of the next scale
      have hnext : (m + 1) / topBit - 1 = (m / topBit - 1) + 1 ∧ (m + 1) % topBit = 0 := by
        unfold topBit at *; omega
      rw [hnext.1, hnext.2, Nat.pow_succ, ← Nat.succ_mul, Nat.succ_eq_add_one, Nat.add_assoc,
        hlast, Nat.add_zero, Nat.mul_comm (2 ^ _), ← Nat.mul_assoc, Nat.mul_two]
    · have hnext : (m + 1) / topBit = m / topBit ∧ (m + 1) % topBit = m % topBit + 1 := by
        unfold topBit at *; omega
      rw [hnext.1, hnext.2, ← Nat.add_assoc, Nat.succ_mul]

/-- **A larger magnitude holds more units.** -/
theorem unitsOf_strictMono : StrictMono unitsOf :=
  strictMono_nat_of_lt_succ fun m => by
    rw [unitsOf_succ]
    exact Nat.lt_add_of_pos_right (Nat.two_pow_pos _)

/-! ## The number line -/

/-- A scale that is split at a base, below which it divides. -/
theorem scaled_eq (a s base : Nat) :
    ((a * Nat.pow 2 (s - base) : Nat) : ℚ) / (Nat.pow 2 (base - s) : Nat) =
      ((a * 2 ^ s : Nat) : ℚ) / 2 ^ base := by
  have hshift : 2 ^ (s - base) * 2 ^ base = 2 ^ s * 2 ^ (base - s) := by
    rw [← Nat.pow_add, ← Nat.pow_add]
    congr 1
    omega
  have hne : ∀ k : Nat, (2 : ℚ) ^ k ≠ 0 := fun k => pow_ne_zero k two_ne_zero
  rw [Nat.pow_eq, Nat.pow_eq, Nat.cast_pow, Nat.cast_ofNat, div_eq_div_iff (hne _) (hne _)]
  exact_mod_cast (by rw [Nat.mul_assoc, hshift, Nat.mul_assoc] :
    a * 2 ^ (s - base) * 2 ^ base = a * 2 ^ s * 2 ^ (base - s))

/-- The smallest positive number is `2 ^ (-1074)`. -/
theorem magnitude_value (x : Binary64) :
    (x.numerator : ℚ) / x.denominator = (unitsOf x.magnitude : ℚ) / 2 ^ 1074 :=
  scaled_eq x.significand x.scale 1074

/-- The count of units on either side of the origin. -/
def balance (x : Binary64) : Int :=
  if x.negative then -(unitsOf x.magnitude : Int) else unitsOf x.magnitude

theorem value_eq (x : Binary64) : x.value = (x.balance : ℚ) / 2 ^ 1074 := by
  rw [value, magnitude_value, balance]
  split
  · rw [Int.cast_neg, Int.cast_natCast, neg_one_mul, neg_div]
  · rw [Int.cast_natCast, one_mul]

theorem position_lt_iff_balance : x.position < y.position ↔ x.balance < y.balance := by
  have hzero : unitsOf 0 = 0 := unitsOf_of_lt (by decide)
  have hlt := @unitsOf_strictMono.lt_iff_lt
  have hxy := @hlt x.magnitude y.magnitude
  have hyx := @hlt y.magnitude x.magnitude
  have hx := @hlt 0 x.magnitude
  have hy := @hlt 0 y.magnitude
  rw [hzero] at hx hy
  unfold position balance
  split <;> split <;> omega

/-- **Numbers stand in the order of their values.** -/
theorem position_lt_iff : x.position < y.position ↔ x.value < y.value := by
  have hunit : (0 : ℚ) < 2 ^ 1074 := pow_pos two_pos _
  rw [position_lt_iff_balance, value_eq, value_eq, div_lt_div_iff_of_pos_right hunit, Int.cast_lt]

/-! ## Comparisons -/

theorem isLT_compare (x y : Binary64) : (x.compare y).isLT = decide (x.value < y.value) := by
  rw [Bool.eq_iff_iff, Ordering.isLT_iff_eq_lt, decide_eq_true_iff, ← position_lt_iff]
  exact compare_lt_iff_lt

theorem isGT_compare (x y : Binary64) : (x.compare y).isGT = decide (y.value < x.value) := by
  rw [Bool.eq_iff_iff, Ordering.isGT_iff_eq_gt, decide_eq_true_iff, ← position_lt_iff]
  exact compare_gt_iff_gt

theorem isLE_compare (x y : Binary64) : (x.compare y).isLE = decide (x.value ≤ y.value) := by
  rw [Bool.eq_iff_iff, decide_eq_true_iff, ← not_lt, ← position_lt_iff, not_lt]
  exact Int.isLE_compare

theorem isGE_compare (x y : Binary64) : (x.compare y).isGE = decide (y.value ≤ x.value) := by
  rw [Bool.eq_iff_iff, decide_eq_true_iff, ← not_lt, ← position_lt_iff, not_lt]
  exact Int.isGE_compare

end Binary64

end Flowchart
