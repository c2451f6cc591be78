import DoubleEntry.Proofs.Decimal.Text

/-!
The texts of amounts in answers. Such a text is a plain numeral without a zero at the end of its fraction and without a sign
on zero. It is read as the amount it shows, and two amounts are shown alike exactly if they are the same number.
-/

set_option autoImplicit false

namespace DoubleEntry

open Text

-- No zero ends the fraction, and a minus sign stands before some digit other than zero.
structure Numeral.Canonical (n : Numeral) : Prop where
  trimmed : n.fraction.getLast? ≠ .some '0'
  sign : n.negative = true → ∃ c ∈ n.whole ++ n.fraction, c ≠ '0'

namespace Decimal

-- A decimal of as few fractional digits as its number needs; zero is written in one way only.
structure Trimmed (d : Decimal) : Prop where
  last : d.scale = 0 ∨ d.mantissa % 10 ≠ 0
  none : d.mantissa = 0 → d = zero

section Normalized

theorem trim_zeros_last (n mantissa scale : ℕ) (enough : scale ≤ n) :
    (trimZeros n mantissa scale).2 = 0 ∨ (trimZeros n mantissa scale).1 % 10 ≠ 0 := by
  induction n generalizing mantissa scale with
  | zero => exact .inl (Nat.le_zero.mp enough)
  | succ n ih =>
      rw [trimZeros]
      by_cases zero : scale ≠ 0 ∧ mantissa % 10 = 0
      · rw [if_pos zero]
        exact ih _ _ (by omega)
      · rw [if_neg zero]
        by_cases whole : scale = 0
        · exact .inl whole
        · exact .inr (fun ends => zero ⟨whole, ends⟩)

theorem normalize_trimmed (d : Decimal) : d.normalize.Trimmed := by
  by_cases none : d.mantissa = 0
  · rw [normalize, if_pos none]
    exact ⟨.inl rfl, fun _ => rfl⟩
  · rw [normalize, if_neg none]
    refine ⟨trim_zeros_last _ _ _ (Nat.le_refl _), fun vanished => ?_⟩
    exfalso
    have kept := trim_zeros_value d.scale d.mantissa d.scale
    have vanished : (trimZeros d.scale d.mantissa d.scale).1 = 0 := vanished
    rw [vanished, Nat.cast_zero, zero_div, eq_comm, div_eq_zero_iff] at kept
    rcases kept with zero | power
    · exact none (by exact_mod_cast zero)
    · exact absurd power (by positivity)

end Normalized

section Unique

variable (a b : Decimal)

theorem same_ratio (same : a.value = b.value) : a.mantissa * 10 ^ b.scale = b.mantissa * 10 ^ a.scale := by
  have absolute : |a.value| = |b.value| := by rw [same]
  rw [abs_value, abs_value, div_eq_div_iff (by positivity) (by positivity)] at absolute
  exact_mod_cast absolute

theorem trimmed_shortest (trimmed : b.Trimmed) (same : a.value = b.value) : b.scale ≤ a.scale := by
  by_contra longer
  have ratio := same_ratio a b same
  obtain ⟨more, gap⟩ := Nat.exists_eq_add_of_lt (Nat.lt_of_not_le longer)
  rw [gap, show a.scale + more + 1 = more + 1 + a.scale by omega, pow_add, ← mul_assoc] at ratio
  have tens := Nat.eq_of_mul_eq_mul_right (by positivity) ratio
  rcases trimmed.last with whole | last
  · omega
  · apply last
    rw [← tens, pow_succ, ← mul_assoc]
    exact Nat.mul_mod_left _ _

theorem signed_sign (same : a.signed = b.signed) (some : a.mantissa ≠ 0) : a.negative = b.negative := by
  cases signA : a.negative <;> cases signB : b.negative <;>
    simp only [signed, signA, signB, if_true, Bool.false_eq_true, if_false, reduceCtorEq] at same ⊢ <;> omega

theorem trimmed_unique (trimmedA : a.Trimmed) (trimmedB : b.Trimmed) (same : a.value = b.value) : a = b := by
  have scales := Nat.le_antisymm (trimmed_shortest b a trimmedA same.symm) (trimmed_shortest a b trimmedB same)
  have ratio := same_ratio a b same
  rw [scales] at ratio
  have mantissas := Nat.eq_of_mul_eq_mul_right (by positivity) ratio
  by_cases none : a.mantissa = 0
  · rw [trimmedA.none none, trimmedB.none (mantissas.symm.trans none)]
  · rw [value, value, scales, div_left_inj' (by positivity)] at same
    have signs := signed_sign a b (by exact_mod_cast same) none
    cases a
    cases b
    cases scales
    cases mantissas
    cases signs
    rfl

end Unique

section Shown

variable (d : Decimal)

theorem trimmed_canonical (trimmed : d.Trimmed) : d.printed.Canonical := by
  have count := printed_count d
  refine ⟨fun zero => ?_, fun negative => ?_⟩
  · obtain ⟨front, shape⟩ := List.getLast?_eq_some_iff.mp zero
    have places := printed_places d
    rw [shape, List.length_append, List.length_singleton] at places
    rcases trimmed.last with whole | last
    · omega
    · apply last
      rw [← count, Numeral.count, shape, ← List.append_assoc, Nat.ofDigitChars_append, digit_chars_cons, Nat.ofDigitChars_nil]
      exact Nat.mul_mod_left _ _
  · by_contra absent
    have zeros : ∀ c ∈ d.printed.whole ++ d.printed.fraction, c = '0' :=
      fun c member => by_contra fun other => absent ⟨c, member, other⟩
    have none : d.mantissa = 0 := by
      rw [← count, Numeral.count, List.eq_replicate_of_mem zeros, Nat.ofDigitChars_replicate_zero, Nat.mul_zero]
    have plain : d.negative = true := negative
    rw [trimmed.none none] at plain
    cases plain

end Shown

end Decimal

namespace Http

/-- The texts of amounts in answers: plain numerals without needless zeros behind the point and without a sign on zero, read
as the numbers they show, and the same for two amounts exactly if these are the same number. Moreover, what is printed of a
decimal with all its digits is read as these digits again, whatever blanks stand around it. -/
theorem amount_texts_canonical (d e : Decimal) (before after : Blanks) :
    (∃ n : Numeral, n.Canonical ∧ amountText d = String.ofList n.text ∧ n.value = d.value) ∧
      (∃ r, Amount.parse (amountText d) = .ok r ∧ r.value = d.value) ∧
      (amountText d = amountText e ↔ d.value = e.value) ∧
      ∃ r, Amount.parse (before.text ++ d.toText ++ after.text) = .ok r ∧ r.Alike d := by
  refine ⟨⟨d.normalize.printed, ?_, ?_, ?_⟩, amount_text_read d, ⟨fun same => ?_, fun same => ?_⟩,
    Decimal.text_between d before after⟩
  · exact Decimal.trimmed_canonical _ (Decimal.normalize_trimmed d)
  · rw [Decimal.printed_text]
    rfl
  · rw [Decimal.printed_value, Decimal.normalize_value]
  · obtain ⟨r, readD, valueD⟩ := amount_text_read d
    obtain ⟨r', readE, valueE⟩ := amount_text_read e
    rw [same, readE] at readD
    cases readD
    rw [← valueD, ← valueE]
  · have unique := Decimal.trimmed_unique _ _ (Decimal.normalize_trimmed d) (Decimal.normalize_trimmed e)
      (by rw [Decimal.normalize_value, Decimal.normalize_value, same])
    rw [amountText, amountText, unique]

end Http

end DoubleEntry
