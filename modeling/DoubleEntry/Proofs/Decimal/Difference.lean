import DoubleEntry.Proofs.Decimal.Value

/-!
What is taken from a number that covers it. Whatever the scales of both, the difference fits: as many digits are rounded
off as the larger number leaves no room for, so it does not come out above that number either.
-/

set_option autoImplicit false

namespace DoubleEntry

theorem half_even_succ (n d : Nat) : roundHalfEven n d ≤ n / d + 1 := by
  unfold roundHalfEven
  dsimp only
  split <;> omega

theorem half_even_le (n d m : Nat) (positive : 0 < d) (bounded : n ≤ m * d) : roundHalfEven n d ≤ m := by
  have quotient : n / d ≤ m := by
    rw [← Nat.mul_div_cancel m positive]
    exact Nat.div_le_div_right bounded
  by_cases below : n / d < m
  · exact Nat.le_trans (half_even_succ n d) below
  · have exactly : n / d = m := Nat.le_antisymm quotient (Nat.le_of_not_lt below)
    have split := Nat.div_add_mod n d
    rw [exactly, Nat.mul_comm] at split
    have none : n % d = 0 := by omega
    unfold roundHalfEven
    simp [none, exactly, Nat.ne_of_lt positive]

namespace Decimal

theorem of_narrow (negative : Bool) (mantissa scale : Nat) (fits : mantissa < twoTo 96) (narrow : scale ≤ 28) :
    of? negative mantissa scale = some ⟨negative, mantissa, scale, fits, narrow⟩ := dif_pos ⟨fits, narrow⟩

theorem scaled_value (d : Decimal) (scale : Nat) (wider : d.scale ≤ scale) :
    ((d.signed * tenTo (scale - d.scale) : ℤ) : ℚ) = d.value * 10 ^ scale := by
  have power : ((tenTo (scale - d.scale) : ℕ) : ℚ) = 10 ^ (scale - d.scale) := by
    simp [tenTo]
  have split : (10 : ℚ) ^ scale = 10 ^ d.scale * 10 ^ (scale - d.scale) := by
    rw [← pow_add, Nat.add_sub_cancel' wider]
  have positive : (10 : ℚ) ^ d.scale ≠ 0 := by positivity
  rw [value, Int.cast_mul, Int.cast_natCast, power, split]
  field_simp

-- A number with at least as many fractional digits as another, which is counted in its digits.
structure AtMost (d : Decimal) (mantissa scale : Nat) : Prop where
  finer : scale ≤ d.scale
  bounded : d.mantissa ≤ mantissa * tenTo (d.scale - scale)

-- The induction is on the digits that are rounded off. None is rounded off that the bound has.
theorem fit_at_most (negative : Bool) (magnitude scale cap places fuel dropped : Nat) (narrow : scale ≤ 28)
    (fits : cap < mantissaBound) (within : dropped + places ≤ scale) (enough : scale < fuel + dropped + places)
    (bounded : magnitude ≤ cap * tenTo (scale - places)) :
    ∃ d, fit? negative magnitude scale fuel dropped = some d ∧ d.negative = negative ∧ d.AtMost cap places := by
  induction fuel generalizing dropped with
  | zero => omega
  | succ fuel ih =>
      have split : cap * tenTo (scale - places) = cap * tenTo (scale - dropped - places) * tenTo dropped := by
        rw [Nat.mul_assoc, ← ten_to_add]
        congr 2
        omega
      have rounded := half_even_le magnitude (tenTo dropped) _ (ten_to_pos dropped) (split ▸ bounded)
      have quotient : magnitude / tenTo dropped ≤ cap * tenTo (scale - dropped - places) :=
        Nat.div_le_of_le_mul (by rw [Nat.mul_comm, ← split]; exact bounded)
      have wider : mantissaBound ≤ cap * tenTo (scale - dropped - places) → dropped + 1 + places ≤ scale := by
        intro full
        by_contra last
        have none : scale - dropped - places = 0 := by omega
        rw [none, ten_to_zero, Nat.mul_one] at full
        omega
      rw [fit?, if_neg (by omega)]
      by_cases inside : magnitude / tenTo dropped < mantissaBound
      · by_cases exactly : roundHalfEven magnitude (tenTo dropped) < mantissaBound
        · simp only [if_pos inside, if_pos exactly]
          exact ⟨_, of_narrow negative _ _ exactly (by omega), rfl, by simp only; omega, rounded⟩
        · have full := Nat.le_of_not_lt exactly
          have room := wider (Nat.le_trans full rounded)
          have last : cap * tenTo (scale - dropped - places) = cap * tenTo (scale - dropped - 1 - places) * 10 := by
            rw [Nat.mul_assoc, ← ten_to_succ]
            congr 2
            omega
          have again := half_even_le _ 10 _ (by decide) (last ▸ rounded)
          have small : roundHalfEven (roundHalfEven magnitude (tenTo dropped)) 10 < twoTo 96 := by
            have first := half_even_succ magnitude (tenTo dropped)
            have second := half_even_succ (roundHalfEven magnitude (tenTo dropped)) 10
            have wide : 2 < mantissaBound := by decide
            change _ < mantissaBound
            omega
          simp only [if_pos inside, if_neg exactly, if_neg (show ¬ scale = dropped by omega)]
          exact ⟨_, of_narrow negative _ _ small (by omega), rfl, by simp only; omega, again⟩
      · simp only [if_neg inside]
        have room := wider (Nat.le_trans (Nat.le_of_not_lt inside) quotient)
        exact ih (dropped + 1) (by omega) (by omega)

theorem positive_plain (d : Decimal) (positive : 0 < d.value) :
    d.isZero = false ∧ d.negative = false ∧ d.signed = d.mantissa := by
  have some : d.mantissa ≠ 0 := by
    intro none
    have zero := value_of_zero d (by simp [isZero, none])
    linarith
  have plus : d.negative = false := by
    rcases (value_nonneg d).mp (le_of_lt positive) with plus | none
    · exact plus
    · exact absurd none some
  exact ⟨by simpa [isZero] using some, plus, by rw [signed, if_neg (by simp [plus])]⟩

theorem at_most_value (d a : Decimal) (positive : 0 < a.value) (plus : d.negative = false)
    (bounded : d.AtMost a.mantissa a.scale) : d.value ≤ a.value := by
  have signedA := (positive_plain a positive).2.2
  have signedD : d.signed = d.mantissa := by rw [signed, if_neg (by simp [plus])]
  have power : (0 : ℚ) < 10 ^ d.scale := by positivity
  rw [value, signedD, div_le_iff₀ power, ← scaled_value a d.scale bounded.finer, signedA]
  exact_mod_cast bounded.bounded

theorem difference_bounds (a b : Decimal) (scale : Nat) (finerA : a.scale ≤ scale) (finerB : b.scale ≤ scale)
    (nonneg : 0 ≤ b.value) (covered : b.value ≤ a.value) (difference : Int)
    (taken : a.signed * tenTo (scale - a.scale) + b.neg.signed * tenTo (scale - b.neg.scale) = difference) :
    0 ≤ difference ∧ difference ≤ a.signed * tenTo (scale - a.scale) := by
  have power : (0 : ℚ) < 10 ^ scale := by positivity
  have exactly : (difference : ℚ) = (a.value - b.value) * 10 ^ scale := by
    rw [← taken, Int.cast_add, scaled_value a scale finerA, scaled_value b.neg scale finerB, value_neg]
    ring
  have least : (0 : ℚ) ≤ (a.value - b.value) * 10 ^ scale := mul_nonneg (sub_nonneg.mpr covered) (le_of_lt power)
  have most : (a.value - b.value) * 10 ^ scale ≤ a.value * 10 ^ scale :=
    mul_le_mul_of_nonneg_right (by linarith) (le_of_lt power)
  rw [← exactly] at least most
  rw [← scaled_value a scale finerA] at most
  exact ⟨by exact_mod_cast least, by exact_mod_cast most⟩

theorem sub_positive (a b : Decimal) (positive : 0 < b.value) (covered : b.value ≤ a.value) :
    ∃ d, a.sub? b = some d ∧ d.negative = false ∧ d.AtMost a.mantissa a.scale := by
  have positiveA := lt_of_lt_of_le positive covered
  obtain ⟨someA, plusA, signedA⟩ := positive_plain a positiveA
  have someB := (positive_plain b positive).1
  have someNeg : b.neg.isZero = false := someB
  generalize common : max a.scale b.neg.scale = scale
  generalize taken : a.signed * tenTo (scale - a.scale) + b.neg.signed * tenTo (scale - b.neg.scale) = difference
  have finerA : a.scale ≤ scale := by omega
  have finerB : b.neg.scale ≤ scale := by omega
  have narrow : scale ≤ 28 := by
    have left := a.scale_le
    have right := b.neg.scale_le
    omega
  obtain ⟨least, most⟩ := difference_bounds a b scale finerA finerB (le_of_lt positive) covered difference taken
  rw [signedA] at most
  have bounded : difference.natAbs ≤ a.mantissa * tenTo (scale - a.scale) := by omega
  have sign : (if difference = 0 then a.negative && isNarrow a b.neg else decide (difference < 0)) = false := by
    by_cases none : difference = 0
    · simp [none, plusA]
    · simp [none, least]
  obtain ⟨d, fitted, plus, atMost⟩ := fit_at_most false difference.natAbs scale a.mantissa a.scale (scale + 1) 0 narrow
    a.mantissa_lt (by omega) (by omega) bounded
  refine ⟨d, ?_, plus, atMost⟩
  rw [sub?, if_neg (by simp [someB]), add?, if_neg (by simp [someA]), if_neg (by simp [someNeg])]
  simp only [common, taken, sign, fitted]

theorem sub_covered (a b : Decimal) (nonneg : 0 ≤ b.value) (covered : b.value ≤ a.value) :
    ∃ d, a.sub? b = some d ∧ 0 ≤ d.value ∧ d.value ≤ a.value := by
  by_cases positive : 0 < b.value
  · obtain ⟨d, difference, plus, atMost⟩ := sub_positive a b positive covered
    have positiveA := lt_of_lt_of_le positive covered
    exact ⟨d, difference, (value_nonneg d).mpr (.inl plus), at_most_value d a positiveA plus atMost⟩
  · have zero : b.value = 0 := le_antisymm (not_lt.mp positive) nonneg
    have none : b.isZero = true := by
      have signed : b.signed = 0 := by
        have power : (10 : ℚ) ^ b.scale ≠ 0 := by positivity
        rw [value, div_eq_zero_iff] at zero
        rcases zero with zero | impossible
        · exact_mod_cast zero
        · exact absurd impossible power
      rw [Decimal.signed] at signed
      rw [isZero, beq_iff_eq]
      split at signed <;> omega
    by_cases noneA : a.isZero = true
    · exact ⟨b, by simp only [sub?, add?, if_pos none, if_pos noneA], nonneg, covered⟩
    · exact ⟨a, by simp only [sub?, add?, if_pos none, if_neg noneA], le_trans nonneg covered, le_refl _⟩

end Decimal
end DoubleEntry
