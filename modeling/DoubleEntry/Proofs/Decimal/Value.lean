import DoubleEntry.Amount
import Mathlib

/-!
Decimals as rational numbers. Comparisons compare the numbers, and sums of two amounts of money are exact: both
have five fractional digits and are below the limit, so that their sum fits 96 bits.
-/

set_option autoImplicit false

namespace DoubleEntry

namespace Decimal

def value (d : Decimal) : ℚ := d.signed / 10 ^ d.scale

theorem units_value (d : Decimal) : (d.units : ℚ) = d.value * 10 ^ 28 := by
  have split : (10 : ℚ) ^ 28 = 10 ^ d.scale * 10 ^ (28 - d.scale) := by
    rw [← pow_add, Nat.add_sub_cancel' d.scale_le]
  have power : ((tenTo (28 - d.scale) : ℕ) : ℚ) = 10 ^ (28 - d.scale) := by
    simp [tenTo]
  have positive : (10 : ℚ) ^ d.scale ≠ 0 := by positivity
  rw [value, units, Int.cast_mul, Int.cast_natCast, maxScale, power, split]
  field_simp

theorem num_eq (a b : Decimal) : a.numEq b = true ↔ a.value = b.value := by
  have scaled : a.value = b.value ↔ a.value * 10 ^ 28 = b.value * 10 ^ 28 :=
    (mul_left_inj' (by positivity)).symm
  rw [scaled, ← units_value, ← units_value, Int.cast_inj, numEq, beq_iff_eq]

theorem num_le (a b : Decimal) : a.numLe b = true ↔ a.value ≤ b.value := by
  have scaled : a.value ≤ b.value ↔ a.value * 10 ^ 28 ≤ b.value * 10 ^ 28 :=
    (mul_le_mul_iff_left₀ (by positivity)).symm
  rw [scaled, ← units_value, ← units_value, Int.cast_le, numLe, decide_eq_true_eq]

theorem num_lt (a b : Decimal) : a.numLt b = true ↔ a.value < b.value := by
  have scaled : a.value < b.value ↔ a.value * 10 ^ 28 < b.value * 10 ^ 28 :=
    (mul_lt_mul_iff_left₀ (by positivity)).symm
  rw [scaled, ← units_value, ← units_value, Int.cast_lt, numLt, decide_eq_true_eq]

@[simp] theorem value_zero : zero.value = 0 := by
  simp [value, zero, ofWhole, signed]

@[simp] theorem value_neg (d : Decimal) : d.neg.value = -d.value := by
  rw [value, signed_neg, value, Int.cast_neg, neg_div]
  rfl

theorem value_abs (d : Decimal) : d.abs.value = |d.value| := by
  have positive : (0 : ℚ) < 10 ^ d.scale := by positivity
  rw [value, value, abs_div, abs_of_pos positive]
  cases sign : d.negative <;> simp [signed, abs, sign]

theorem value_of_zero (d : Decimal) (isZero : d.isZero = true) : d.value = 0 := by
  have none : d.mantissa = 0 := by simpa [Decimal.isZero] using isZero
  cases sign : d.negative <;> simp [value, signed, none]

theorem value_nonneg (d : Decimal) : 0 ≤ d.value ↔ d.negative = false ∨ d.mantissa = 0 := by
  have positive : (0 : ℚ) < 10 ^ d.scale := by positivity
  rw [value, le_div_iff₀ positive, zero_mul, Int.cast_nonneg_iff]
  cases sign : d.negative with
  | false => simp [signed, sign]
  | true =>
      simp only [signed, sign, if_true, Bool.true_eq_false, false_or]
      omega

theorem fit_exact (negative : Bool) (magnitude scale fuel : Nat) (fits : magnitude < mantissaBound) :
    fit? negative magnitude scale (fuel + 1) 0 = of? negative magnitude scale := by
  have whole : roundHalfEven magnitude (tenTo 0) = magnitude := by
    simp [roundHalfEven, ten_to_zero, Nat.mod_one]
  rw [fit?, if_neg (Nat.not_lt_zero _), whole, ten_to_zero, Nat.div_one, if_pos fits]
  simp only [fits, if_true, Nat.sub_zero]

end Decimal

theorem below_limit (d : Decimal) : Amount.isBelowLimit d = true ↔ |d.value| < 10 ^ 23 := by
  have limit : Amount.limit.value = 10 ^ 23 := by
    norm_num [Decimal.value, Amount.limit, Decimal.ofWhole, Decimal.signed, tenTo]
  rw [Amount.isBelowLimit, Decimal.num_lt, Decimal.value_abs, limit]

namespace Decimal

-- An amount of money: five fractional digits, and below the limit.
structure IsMoney (d : Decimal) : Prop where
  scale : d.scale = 5
  below : |d.value| < 10 ^ 23

theorem money_neg (d : Decimal) (money : d.IsMoney) : d.neg.IsMoney :=
  ⟨money.scale, by rw [value_neg, abs_neg]; exact money.below⟩

theorem money_signed (d : Decimal) (money : d.IsMoney) : d.value = d.signed / 10 ^ 5 ∧ |d.signed| < 10 ^ 28 := by
  have shape : d.value = d.signed / 10 ^ 5 := by rw [value, money.scale]
  refine ⟨shape, ?_⟩
  have below := money.below
  rw [shape, abs_div, div_lt_iff₀ (by norm_num)] at below
  have cast : ((|d.signed| : ℤ) : ℚ) < ((10 ^ 28 : ℤ) : ℚ) := by
    rw [Int.cast_abs]
    apply lt_of_lt_of_eq below
    norm_num
  exact_mod_cast cast

theorem add_money (a b : Decimal) (moneyA : a.IsMoney) (moneyB : b.IsMoney) :
    ∃ sum, a.add? b = some sum ∧ sum.scale = 5 ∧ sum.value = a.value + b.value := by
  rw [add?]
  by_cases zeroA : a.isZero = true
  · rw [if_pos zeroA, value_of_zero a zeroA, zero_add]
    exact ⟨b, rfl, moneyB.scale, rfl⟩
  by_cases zeroB : b.isZero = true
  · rw [if_neg zeroA, if_pos zeroB, value_of_zero b zeroB, add_zero]
    exact ⟨a, rfl, moneyA.scale, rfl⟩
  obtain ⟨valueA, boundA⟩ := money_signed a moneyA
  obtain ⟨valueB, boundB⟩ := money_signed b moneyB
  have small : (a.signed + b.signed).natAbs < mantissaBound := by
    have bound : |a.signed + b.signed| < 2 * 10 ^ 28 := by
      apply lt_of_le_of_lt (abs_add_le _ _)
      linarith
    have wide : (2 * 10 ^ 28 : ℤ) ≤ ((mantissaBound : ℕ) : ℤ) := by
      simp only [mantissaBound, twoTo, Nat.pow_eq]
      norm_num
    have cast : (((a.signed + b.signed).natAbs : ℕ) : ℤ) < ((mantissaBound : ℕ) : ℤ) := by
      rw [Int.natCast_natAbs]
      exact lt_of_lt_of_le bound wide
    exact_mod_cast cast
  rw [if_neg zeroA, if_neg zeroB]
  simp only [moneyA.scale, moneyB.scale, max_self, Nat.sub_self, ten_to_zero, Nat.cast_one, mul_one]
  rw [fit_exact _ _ _ _ small]
  generalize signOf : (if a.signed + b.signed = 0 then a.negative && isNarrow a b
    else decide (a.signed + b.signed < 0)) = sign
  refine ⟨⟨sign, _, 5, small, by omega⟩, dif_pos ⟨small, by omega⟩, rfl, ?_⟩
  have signed : (if sign = true then -((a.signed + b.signed).natAbs : ℤ) else ((a.signed + b.signed).natAbs : ℤ)) =
      a.signed + b.signed := by
    rw [← signOf]
    by_cases none : a.signed + b.signed = 0
    · simp [none]
    · by_cases below : a.signed + b.signed < 0
      · simp only [none, below, if_false, decide_true, if_true]
        omega
      · simp only [none, below, if_false, decide_false, Bool.false_eq_true]
        omega
  rw [value, Decimal.signed, signed, valueA, valueB, Int.cast_add, add_div]

theorem sub_money (a b : Decimal) (moneyA : a.IsMoney) (moneyB : b.IsMoney) :
    ∃ difference, a.sub? b = some difference ∧ difference.scale = 5 ∧ difference.value = a.value - b.value := by
  rw [sub?]
  by_cases zeroB : b.isZero = true
  · have sum := add_money a b moneyA moneyB
    rw [value_of_zero b zeroB, add_zero] at sum
    rw [if_pos zeroB, value_of_zero b zeroB, sub_zero]
    exact sum
  · have sum := add_money a b.neg moneyA (money_neg b moneyB)
    rw [value_neg, ← sub_eq_add_neg] at sum
    rw [if_neg zeroB]
    exact sum

theorem add_exact (a b sum : Decimal) (moneyA : a.IsMoney) (moneyB : b.IsMoney) (added : a.add? b = some sum) :
    sum.scale = 5 ∧ sum.value = a.value + b.value := by
  obtain ⟨same, found, exactly⟩ := add_money a b moneyA moneyB
  rw [added] at found
  cases found
  exact exactly

theorem sub_exact (a b difference : Decimal) (moneyA : a.IsMoney) (moneyB : b.IsMoney)
    (subtracted : a.sub? b = some difference) :
    difference.scale = 5 ∧ difference.value = a.value - b.value := by
  obtain ⟨same, found, exactly⟩ := sub_money a b moneyA moneyB
  rw [subtracted] at found
  cases found
  exact exactly

theorem widen_scale (n : Nat) (d : Decimal) (room : d.scale + n ≤ 28) :
    (widen n d).scale = d.scale + n ∨
      (widen n d).scale < d.scale + n ∧ twoTo 96 ≤ (widen n d).mantissa * 10 := by
  induction n generalizing d with
  | zero => exact .inl rfl
  | succ n ih =>
      rw [widen]
      by_cases fits : d.mantissa * 10 < twoTo 96 ∧ d.scale + 1 ≤ 28
      · rw [dif_pos fits]
        have wider := ih ⟨d.negative, d.mantissa * 10, d.scale + 1, fits.1, fits.2⟩ (by simp only; omega)
        simp only at wider
        rwa [show d.scale + (n + 1) = d.scale + 1 + n by omega]
      · rw [dif_neg fits]
        refine .inr ⟨by omega, ?_⟩
        by_contra short
        exact fits ⟨Nat.lt_of_not_le short, by omega⟩

theorem widen_nonneg (n : Nat) (d : Decimal) (nonneg : 0 ≤ d.value) : 0 ≤ (widen n d).value := by
  induction n generalizing d with
  | zero => exact nonneg
  | succ n ih =>
      rw [widen]
      split
      · refine ih _ ((value_nonneg _).mpr ?_)
        rcases (value_nonneg d).mp nonneg with positive | none
        · exact .inl positive
        · exact .inr (by simp only [none, Nat.zero_mul])
      · exact nonneg

theorem rescale_scale (places : Nat) (d : Decimal) (room : places ≤ 28) :
    (d.rescale places).scale = places ∨
      (d.rescale places).scale < places ∧ twoTo 96 ≤ (d.rescale places).mantissa * 10 := by
  rw [rescale]
  by_cases longer : places < d.scale
  · rw [dif_pos longer]
    exact .inl rfl
  · rw [dif_neg longer]
    have total : d.scale + (places - d.scale) = places := Nat.add_sub_cancel' (Nat.le_of_not_lt longer)
    have widened := widen_scale (places - d.scale) d (by omega)
    rwa [total] at widened

theorem half_up_zero (p : Nat) (positive : 0 < p) : roundHalfUp 0 p = 0 := by
  rw [roundHalfUp, Nat.mul_zero, Nat.zero_add]
  exact Nat.div_eq_of_lt (by omega)

theorem rounded_nonneg (places : Nat) (d : Decimal) (nonneg : 0 ≤ d.value) :
    0 ≤ (d.roundTo places).value ∧ 0 ≤ (d.rescale places).value := by
  rcases (value_nonneg d).mp nonneg with positive | none
  · constructor
    · rw [roundTo]
      split
      · exact (value_nonneg _).mpr (.inl (by simp only [positive, Bool.false_and]))
      · exact nonneg
    · rw [rescale]
      split
      · exact (value_nonneg _).mpr (.inl positive)
      · exact widen_nonneg _ d nonneg
  · have rounded := half_up_zero (tenTo (d.scale - places)) (ten_to_pos _)
    constructor
    · rw [roundTo]
      split
      · exact (value_nonneg _).mpr (.inr (by simp only [none, rounded]))
      · exact nonneg
    · rw [rescale]
      split
      · exact (value_nonneg _).mpr (.inr (by simp only [none, rounded]))
      · exact widen_nonneg _ d nonneg

theorem round_money (d : Decimal) (below : Amount.isBelowLimit (Amount.round d) = true) : (Amount.round d).IsMoney := by
  have bound := (below_limit _).mp below
  refine ⟨?_, bound⟩
  rcases rescale_scale 5 (d.roundTo 5) (by omega) with five | ⟨fewer, full⟩
  · exact five
  · exfalso
    have magnitude : |(Amount.round d).value| = (Amount.round d).mantissa / 10 ^ (Amount.round d).scale := by
      have positive : (0 : ℚ) < 10 ^ (Amount.round d).scale := by positivity
      rw [value, abs_div, abs_of_pos positive]
      cases sign : (Amount.round d).negative <;> simp [signed, sign]
    have scale : (10 : ℚ) ^ (Amount.round d).scale ≤ 10 ^ 4 :=
      pow_le_pow_right₀ (by norm_num) (Nat.le_of_lt_succ fewer)
    have large : (10 ^ 27 : ℚ) ≤ (Amount.round d).mantissa := by
      have whole : 10 ^ 27 ≤ (Amount.round d).mantissa := by
        have width : (10 ^ 28 : ℕ) ≤ twoTo 96 := by
          simp only [twoTo, Nat.pow_eq]
          norm_num
        have full : twoTo 96 ≤ (Amount.round d).mantissa * 10 := full
        omega
      exact_mod_cast whole
    rw [magnitude, div_lt_iff₀ (by positivity)] at bound
    have product : (10 : ℚ) ^ 23 * 10 ^ (Amount.round d).scale ≤ 10 ^ 23 * 10 ^ 4 :=
      mul_le_mul_of_nonneg_left scale (by positivity)
    have total : (10 : ℚ) ^ 23 * 10 ^ 4 = 10 ^ 27 := by norm_num
    linarith

theorem round_nonneg (d : Decimal) (nonneg : 0 ≤ d.value) : 0 ≤ (Amount.round d).value :=
  (rounded_nonneg _ _ (rounded_nonneg _ d nonneg).1).2

end Decimal

end DoubleEntry
