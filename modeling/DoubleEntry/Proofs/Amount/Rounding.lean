import DoubleEntry.Proofs.Decimal.Value
import Mathlib

/-!
The rule by which amounts are rounded. Below the limit a number goes to the nearest one with five fractional digits, a half
away from zero; what is larger has no digits to lose. The rule is one on magnitudes, and signs are kept, so that rounding
never crosses the limit, changes nothing when it is repeated, and keeps the order of numbers.
-/

set_option autoImplicit false

namespace DoubleEntry

theorem half_up_floor (n p : ℕ) (positive : 0 < p) : (roundHalfUp n p : ℤ) = ⌊(n : ℚ) / p + 1 / 2⌋ := by
  have whole : (n : ℚ) / p + 1 / 2 = ((2 * n + p : ℕ) : ℚ) / ((2 * p : ℕ) : ℚ) := by
    have some : (p : ℚ) ≠ 0 := by positivity
    push_cast
    field_simp
  rw [whole, roundHalfUp, Rat.floor_natCast_div_natCast, Int.natCast_div]

namespace Decimal

theorem abs_value (d : Decimal) : |d.value| = d.mantissa / 10 ^ d.scale := by
  have positive : (0 : ℚ) < 10 ^ d.scale := by positivity
  rw [value, abs_div, abs_of_pos positive]
  cases sign : d.negative <;> simp [signed, sign]

def withSign (sign : Bool) (d : Decimal) : Decimal := { d with negative := sign }

-- The same digits, and the same sign unless they are those of zero.
structure Alike (a b : Decimal) : Prop where
  mantissa : a.mantissa = b.mantissa
  scale : a.scale = b.scale
  sign : a.negative = b.negative ∨ a.mantissa = 0

theorem alike_refl (d : Decimal) : d.Alike d := ⟨rfl, rfl, .inl rfl⟩

theorem alike_value (a b : Decimal) (alike : a.Alike b) : a.value = b.value := by
  rw [value, value, signed, signed, alike.mantissa, alike.scale]
  rcases alike.sign with same | none
  · rw [same]
  · simp [← alike.mantissa, none]

section Widening

theorem widen_with_sign (sign : Bool) (n : ℕ) (d : Decimal) : widen n (d.withSign sign) = (widen n d).withSign sign := by
  induction n generalizing d with
  | zero => rfl
  | succ n ih =>
      rw [widen, widen]
      by_cases fits : d.mantissa * 10 < twoTo 96 ∧ d.scale + 1 ≤ 28
      · rw [dif_pos fits, dif_pos (by exact fits)]
        exact ih ⟨d.negative, d.mantissa * 10, d.scale + 1, fits.1, fits.2⟩
      · rw [dif_neg fits, dif_neg (by exact fits)]

theorem widen_value (n : ℕ) (d : Decimal) : (widen n d).value = d.value := by
  induction n generalizing d with
  | zero => rfl
  | succ n ih =>
      rw [widen]
      by_cases fits : d.mantissa * 10 < twoTo 96 ∧ d.scale + 1 ≤ 28
      · rw [dif_pos fits, ih]
        have power : (10 : ℚ) ^ (d.scale + 1) = 10 ^ d.scale * 10 := pow_succ 10 d.scale
        cases sign : d.negative <;> simp only [value, signed, sign, power, Bool.false_eq_true, if_false, if_true] <;>
          push_cast <;> field_simp
      · rw [dif_neg fits]

theorem widen_short (n : ℕ) (d : Decimal) (few : d.scale + n = 5) :
    (widen n d).scale = 5 ∨ (widen n d).scale < 5 ∧ twoTo 96 ≤ (widen n d).mantissa * 10 ∧ 10 ^ 23 ≤ |d.value| := by
  have reached := widen_scale n d (by omega)
  rw [few] at reached
  rcases reached with five | ⟨fewer, full⟩
  · exact .inl five
  · right
    refine ⟨fewer, full, ?_⟩
    have width : (10 ^ 28 : ℕ) ≤ twoTo 96 := by
      simp only [twoTo, Nat.pow_eq]
      norm_num
    have whole : 10 ^ 27 ≤ (widen n d).mantissa := by omega
    have large : (10 ^ 27 : ℚ) ≤ (widen n d).mantissa := by exact_mod_cast whole
    have power : (10 : ℚ) ^ (widen n d).scale ≤ 10 ^ 4 := pow_le_pow_right₀ (by norm_num) (Nat.le_of_lt_succ fewer)
    rw [← widen_value n d, abs_value, le_div_iff₀ (by positivity)]
    calc (10 : ℚ) ^ 23 * 10 ^ (widen n d).scale ≤ 10 ^ 23 * 10 ^ 4 := mul_le_mul_of_nonneg_left power (by positivity)
      _ = 10 ^ 27 := by norm_num
      _ ≤ (widen n d).mantissa := large

end Widening

section Rounding

theorem long_below (d : Decimal) (long : 5 < d.scale) : |d.value| < 8 * 10 ^ 22 := by
  have fits := d.mantissa_lt
  have width : twoTo 96 < 8 * 10 ^ 28 := by
    simp only [twoTo, Nat.pow_eq]
    norm_num
  have small : (d.mantissa : ℚ) < 8 * 10 ^ 28 := by exact_mod_cast lt_trans fits width
  have power : (10 : ℚ) ^ 6 ≤ 10 ^ d.scale := pow_le_pow_right₀ (by norm_num) long
  rw [abs_value, div_lt_iff₀ (by positivity)]
  calc (d.mantissa : ℚ) < 8 * 10 ^ 28 := small
    _ = 8 * 10 ^ 22 * 10 ^ 6 := by norm_num
    _ ≤ 8 * 10 ^ 22 * 10 ^ d.scale := mul_le_mul_of_nonneg_left power (by positivity)

theorem rounded_long (d : Decimal) (long : 5 < d.scale) : Amount.round d = d.roundTo 5 := by
  have scale : (d.roundTo 5).scale = 5 := by rw [roundTo, dif_pos long]
  rw [Amount.round, Amount.scale, rescale, dif_neg (by omega), scale]
  rfl

theorem rounded_short (d : Decimal) (short : d.scale ≤ 5) : Amount.round d = widen (5 - d.scale) d := by
  have same : d.roundTo 5 = d := dif_neg (Nat.not_lt_of_le short)
  rw [Amount.round, Amount.scale, same, rescale, dif_neg (Nat.not_lt_of_le short)]

theorem rounded_with_sign (sign : Bool) (d : Decimal) :
    (Amount.round (d.withSign sign)).Alike ((Amount.round d).withSign sign) := by
  by_cases long : 5 < d.scale
  · rw [rounded_long d long, rounded_long (d.withSign sign) (by exact long), roundTo, roundTo, dif_pos long,
      dif_pos (by exact long)]
    refine ⟨rfl, rfl, ?_⟩
    by_cases none : roundHalfUp d.mantissa (tenTo (d.scale - 5)) = 0
    · exact .inr none
    · left
      change (sign && roundHalfUp d.mantissa (tenTo (d.scale - 5)) != 0) = sign
      simp [none]
  · have short := Nat.le_of_not_lt long
    rw [rounded_short d short, rounded_short (d.withSign sign) (by exact short)]
    exact widen_with_sign sign (5 - d.scale) d ▸ alike_refl _

end Rounding

end Decimal

namespace Amount

-- The nearest magnitude with five fractional digits, a half going up.
def nearest (x : ℚ) : ℚ := ⌊x * 10 ^ 5 + 1 / 2⌋ / 10 ^ 5

theorem nearest_mono (x y : ℚ) (less : x ≤ y) : nearest x ≤ nearest y := by
  have floors : ⌊x * 10 ^ 5 + 1 / 2⌋ ≤ ⌊y * 10 ^ 5 + 1 / 2⌋ := Int.floor_mono (by linarith)
  have cast : ((⌊x * 10 ^ 5 + 1 / 2⌋ : ℤ) : ℚ) ≤ ((⌊y * 10 ^ 5 + 1 / 2⌋ : ℤ) : ℚ) := Int.cast_le.mpr floors
  exact div_le_div_of_nonneg_right cast (by norm_num)

theorem nearest_close (x : ℚ) : nearest x ≤ x + 1 := by
  have floor := Int.floor_le (x * 10 ^ 5 + 1 / 2)
  rw [nearest, div_le_iff₀ (by norm_num)]
  linarith

theorem nearest_short (d : Decimal) (short : d.scale ≤ 5) : nearest |d.value| = |d.value| := by
  have split : (10 : ℚ) ^ 5 = 10 ^ d.scale * 10 ^ (5 - d.scale) := by
    rw [← pow_add, Nat.add_sub_cancel' short]
  have positive : (10 : ℚ) ^ d.scale ≠ 0 := by positivity
  have whole : |d.value| * 10 ^ 5 = ((d.mantissa * 10 ^ (5 - d.scale) : ℕ) : ℤ) := by
    rw [Decimal.abs_value, split]
    push_cast
    field_simp
  have floor : ⌊|d.value| * 10 ^ 5 + 1 / 2⌋ = ((d.mantissa * 10 ^ (5 - d.scale) : ℕ) : ℤ) := by
    rw [whole, Int.floor_intCast_add]
    norm_num
  rw [nearest, floor, ← whole]
  field_simp

theorem nearest_long (d : Decimal) (long : 5 < d.scale) : |(d.roundTo 5).value| = nearest |d.value| := by
  have split : (10 : ℚ) ^ d.scale = 10 ^ 5 * 10 ^ (d.scale - 5) := by
    rw [← pow_add, Nat.add_sub_cancel' (Nat.le_of_lt long)]
  have power : ((tenTo (d.scale - 5) : ℕ) : ℚ) = 10 ^ (d.scale - 5) := by
    simp [tenTo]
  have positive : (10 : ℚ) ^ (d.scale - 5) ≠ 0 := by positivity
  have shifted : |d.value| * 10 ^ 5 = (d.mantissa : ℚ) / (tenTo (d.scale - 5) : ℕ) := by
    rw [Decimal.abs_value, split, power]
    field_simp
  have floor := half_up_floor d.mantissa (tenTo (d.scale - 5)) (ten_to_pos _)
  rw [Decimal.abs_value, Decimal.roundTo, dif_pos long, nearest, shifted, ← floor]
  push_cast
  rfl

section Law

variable (d : Decimal)

theorem round_small (small : |d.value| < 10 ^ 23) :
    (round d).scale = 5 ∧ |(round d).value| < 10 ^ 23 ∧ |(round d).value| = nearest |d.value| := by
  by_cases long : 5 < d.scale
  · have rounded := nearest_long d long
    have below : |(d.roundTo 5).value| < 10 ^ 23 := by
      have far := Decimal.long_below d long
      have close := nearest_close |d.value|
      rw [rounded]
      linarith
    rw [Decimal.rounded_long d long]
    exact ⟨by rw [Decimal.roundTo, dif_pos long], below, rounded⟩
  · have short := Nat.le_of_not_lt long
    rw [Decimal.rounded_short d short, Decimal.widen_value, nearest_short d short]
    refine ⟨?_, small, rfl⟩
    rcases Decimal.widen_short (5 - d.scale) d (by omega) with five | ⟨_, _, large⟩
    · exact five
    · exact absurd small (not_lt.mpr large)

theorem round_large (large : 10 ^ 23 ≤ |d.value|) : (round d).value = d.value := by
  have short : d.scale ≤ 5 := by
    by_contra long
    have far := Decimal.long_below d (Nat.lt_of_not_le long)
    linarith
  rw [Decimal.rounded_short d short, Decimal.widen_value]

theorem round_below : |(round d).value| < 10 ^ 23 ↔ |d.value| < 10 ^ 23 := by
  by_cases small : |d.value| < 10 ^ 23
  · exact iff_of_true (round_small d small).2.1 small
  · rw [round_large d (not_lt.mp small)]

theorem round_again : round (round d) = round d := by
  rcases Decimal.rescale_scale 5 (d.roundTo 5) (by omega) with five | ⟨fewer, full⟩
  · have scale : (round d).scale = 5 := five
    rw [Decimal.rounded_short (round d) (Nat.le_of_eq scale), scale]
    rfl
  · have short : (round d).scale < 5 := fewer
    have none : ¬ ((round d).mantissa * 10 < twoTo 96 ∧ (round d).scale + 1 ≤ 28) := fun fits =>
      Nat.not_lt_of_le full fits.1
    obtain ⟨n, digits⟩ := Nat.exists_eq_add_of_lt short
    rw [Decimal.rounded_short (round d) (Nat.le_of_lt short), show 5 - (round d).scale = n + 1 by omega, Decimal.widen,
      dif_neg none]

theorem round_sign : (round d).negative = d.negative ∨ (round d).mantissa = 0 :=
  (Decimal.rounded_with_sign d.negative d).sign

theorem round_odd : (round d.neg).Alike (round d).neg := by
  have alike := Decimal.rounded_with_sign (!d.negative) d
  refine ⟨alike.mantissa, alike.scale, ?_⟩
  rcases alike.sign with same | none
  · rcases round_sign d with own | none
    · left
      exact same.trans (congrArg not own.symm)
    · exact .inr (alike.mantissa.trans none)
  · exact .inr none

theorem round_neg_value : (round d.neg).value = -(round d).value := by
  rw [Decimal.alike_value _ _ (round_odd d), Decimal.value_neg]

theorem round_grows (e : Decimal) (less : |d.value| ≤ |e.value|) : |(round d).value| ≤ |(round e).value| := by
  by_cases smallE : |e.value| < 10 ^ 23
  · rw [(round_small e smallE).2.2, (round_small d (lt_of_le_of_lt less smallE)).2.2]
    exact nearest_mono _ _ less
  · rw [round_large e (not_lt.mp smallE)]
    by_cases small : |d.value| < 10 ^ 23
    · exact le_trans (le_of_lt (round_small d small).2.1) (not_lt.mp smallE)
    · rw [round_large d (not_lt.mp small)]
      exact less

theorem round_nonpos (nonpos : d.value ≤ 0) : (round d).value ≤ 0 := by
  have mirrored := Decimal.round_nonneg d.neg (by rw [Decimal.value_neg]; exact neg_nonneg.mpr nonpos)
  rw [round_neg_value] at mirrored
  exact neg_nonneg.mp mirrored

theorem round_mono (e : Decimal) (less : d.value ≤ e.value) : (round d).value ≤ (round e).value := by
  by_cases nonneg : 0 ≤ d.value
  · have grows := round_grows d e (abs_le_abs_of_nonneg nonneg less)
    rwa [abs_of_nonneg (Decimal.round_nonneg d nonneg),
      abs_of_nonneg (Decimal.round_nonneg e (le_trans nonneg less))] at grows
  · have nonpos := le_of_not_ge nonneg
    by_cases nonnegE : 0 ≤ e.value
    · exact le_trans (round_nonpos d nonpos) (Decimal.round_nonneg e nonnegE)
    · have nonposE := le_of_not_ge nonnegE
      have grows := round_grows e d (by rw [abs_of_nonpos nonposE, abs_of_nonpos nonpos]; exact neg_le_neg less)
      rw [abs_of_nonpos (round_nonpos e nonposE), abs_of_nonpos (round_nonpos d nonpos)] at grows
      exact neg_le_neg_iff.mp grows

structure RoundsByLaw : Prop where
  small : |d.value| < 10 ^ 23 → (round d).scale = 5 ∧ |(round d).value| < 10 ^ 23 ∧
    |(round d).value| = ⌊|d.value| * 10 ^ 5 + 1 / 2⌋ / 10 ^ 5
  large : 10 ^ 23 ≤ |d.value| → (round d).value = d.value
  sign : (round d).negative = d.negative ∨ (round d).mantissa = 0
  limit : isBelowLimit (round d) = isBelowLimit d
  again : round (round d) = round d
  monotone : ∀ e : Decimal, d.value ≤ e.value → (round d).value ≤ (round e).value
  odd : (round d.neg).Alike (round d).neg

theorem amounts_round_by_law : RoundsByLaw d := by
  refine ⟨round_small d, round_large d, round_sign d, ?_, round_again d, round_mono d, round_odd d⟩
  rw [Bool.eq_iff_iff, below_limit, below_limit]
  exact round_below d

-- Halves go away from zero on both sides.
example : round ⟨true, 1234565, 6, by decide, by decide⟩ = ⟨true, 123457, 5, by decide, by decide⟩ := by decide

end Law

end Amount
end DoubleEntry
