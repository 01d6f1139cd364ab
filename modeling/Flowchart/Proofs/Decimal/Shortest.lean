import Flowchart.Decimal.Shortest
import Flowchart.Proofs.Decimal.Digits

/-!
# Shortest numerals have digits

The numbers that round to a number other than zero lie above zero, so
its shortest numeral is not zero (`shortest_digits_pos`) and its digits
do not begin with one.
-/

namespace Flowchart

namespace Binary64

variable {x : Binary64} {i : Interval}

theorem significand_pos (h : x.isZero = false) : 0 < x.significand := by
  have hne : x.magnitude ≠ 0 := by simpa [isZero] using h
  unfold significand topBit
  split <;> omega

/-- What rounds to a number other than zero lies above zero. -/
theorem interval_lower_pos (h : x.isZero = false) : 0 < x.interval.lower := by
  have hsig := significand_pos h
  have hunit : 0 < Nat.pow 2 (x.scale - 1074) := Nat.pow_pos (by decide)
  have hnum : Nat.pow 2 (x.scale - 1074) ≤ x.numerator := Nat.le_mul_of_pos_left _ hsig
  unfold interval
  simp only
  split <;> omega

/-- Zero does not lie in an interval above it. -/
theorem Interval.not_contains_zero {den : Nat} (h : 0 < i.lower) (hden : 0 < den) :
    i.contains 0 den = false := by
  have hlo : 0 < i.lower * den := Nat.mul_pos h hden
  unfold contains
  simp only [Nat.zero_mul]
  split
  · have hno : ¬ i.lower * den ≤ 0 := by omega
    rw [decide_eq_false hno, Bool.false_and]
  · have hno : ¬ i.lower * den < 0 := by omega
    rw [decide_eq_false hno, Bool.false_and]

/-- A grid point that reads back is not zero. -/
theorem onGrid?_pos {point : Int} {count d : Nat} (h : 0 < i.lower)
    (hd : onGrid? i point count = some d) : 0 < d := by
  have hdown : 0 < Nat.pow 10 (-(point - count)).toNat := Nat.pow_pos (by decide)
  have hpos : ∀ k up, i.contains (k * up) (Nat.pow 10 (-(point - count)).toNat) = true → 0 < k := by
    intro k up hk
    rcases Nat.eq_zero_or_pos k with rfl | hk'
    · rw [Nat.zero_mul, i.not_contains_zero h hdown] at hk
      cases hk
    · exact hk'
  -- the point below, the one above, or the nearer one if both read back
  unfold onGrid? at hd
  simp only at hd
  split at hd
  · next hbelow _ =>
    have := hpos _ _ hbelow
    obtain rfl := Option.some.inj hd
    split
    · exact this
    · split <;> omega
  · next hbelow _ => exact Option.some.inj hd ▸ hpos _ _ hbelow
  · next _ habove => exact Option.some.inj hd ▸ hpos _ _ habove
  · cases hd

/-- **The shortest numeral of a number other than zero is not zero.** -/
theorem firstGrid_digits_pos {point : Int} {fuel count : Nat} (h : 0 < i.lower) :
    0 < (firstGrid i point fuel count).digits := by
  induction fuel generalizing count with
  | zero => exact Nat.pow_pos (by decide)
  | succ fuel ih =>
    rw [firstGrid]
    split
    · next d hd =>
      split
      · exact Nat.one_pos
      · exact onGrid?_pos h hd
    · exact ih

theorem shortest_digits_pos (h : x.isZero = false) : 0 < x.shortest.digits :=
  firstGrid_digits_pos (interval_lower_pos h)

end Binary64

end Flowchart
