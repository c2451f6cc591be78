import DoubleEntry.Http.Message
import DoubleEntry.Proofs.Decimal.Numeral

/-!
Texts of decimals, read back. What is printed of a decimal is read as the same digits at the same scale, and with the same
sign unless it is zero. In an answer the zeros at the end of its fraction are left out, which does not change the number.
-/

set_option autoImplicit false

namespace DoubleEntry

open Text

namespace Decimal

section Printing

variable (mantissa scale : Nat)

-- All digits of a printed magnitude, with at least one of them before the point.
def shownDigits : List Char := padLeft (scale + 1) '0' (digits mantissa)

theorem shown_digit : ∀ c ∈ shownDigits mantissa scale, c.isDigit = true := padded_digit (scale + 1) mantissa

theorem shown_value : Nat.ofDigitChars 10 (shownDigits mantissa scale) 0 = mantissa :=
  (nat_of_digits _ 0).symm.trans (padded_value (scale + 1) mantissa)

theorem shown_length : scale < (shownDigits mantissa scale).length := by
  rw [shownDigits, padLeft, List.length_append, List.length_replicate]
  omega

end Printing

section Decimals

variable (d : Decimal)

def printed : Numeral where
  negative := d.negative
  whole := (shownDigits d.mantissa d.scale).take ((shownDigits d.mantissa d.scale).length - d.scale)
  fraction := (shownDigits d.mantissa d.scale).drop ((shownDigits d.mantissa d.scale).length - d.scale)
  some := by
    have long := shown_length d.mantissa d.scale
    apply List.ne_nil_of_length_pos
    rw [List.length_take]
    omega
  digit := by
    rw [List.take_append_drop]
    exact shown_digit d.mantissa d.scale

theorem printed_digits : d.printed.whole ++ d.printed.fraction = shownDigits d.mantissa d.scale := List.take_append_drop _ _

theorem printed_count : d.printed.count = d.mantissa := by
  rw [Numeral.count, printed_digits, shown_value]

theorem printed_places : d.printed.fraction.length = d.scale := by
  have long := shown_length d.mantissa d.scale
  simp only [printed, List.length_drop]
  omega

theorem printed_text : d.printed.text = d.text := by
  have magnitude : d.printed.magnitude = magnitudeText d.mantissa d.scale := by
    have places := printed_places d
    rw [Numeral.magnitude, magnitudeText]
    by_cases none : d.scale = 0
    · rw [if_pos (List.eq_nil_of_length_eq_zero (places.trans none)), if_pos none]
      rfl
    · rw [if_neg (fun empty => none (by rw [← places, empty]; rfl)), if_neg none]
      rfl
  rw [Numeral.text, text, magnitude]
  rfl

theorem printed_value : d.printed.value = d.value := by
  rw [Numeral.value, Numeral.signed, printed_count, printed_places]
  rfl

theorem text_between (before after : Blanks) :
    ∃ e, Amount.parse (before.text ++ d.toText ++ after.text) = .ok e ∧ e.Alike d := by
  obtain ⟨e, read, mantissa, scale, sign, _⟩ :=
    numeral_kept d.printed (by rw [printed_count]; exact d.mantissa_lt) (by rw [printed_places]; exact d.scale_le)
  rw [printed_count] at mantissa
  refine ⟨e, ?_, mantissa, scale.trans (printed_places d), ?_⟩
  · have parsed := Amount.parse_numeral before after d.printed e read
    rwa [printed_text] at parsed
  · by_cases none : d.mantissa = 0
    · exact .inr (mantissa.trans none)
    · left
      rw [sign, printed_count]
      simp [printed, none]

theorem parse_text : ∃ e, Amount.parse d.toText = .ok e ∧ e.Alike d := by
  have read := text_between d Blanks.none Blanks.none
  rwa [Blanks.none, String.empty_append, String.append_empty] at read

end Decimals

section Normalizing

theorem trim_zeros_value (n mantissa scale : Nat) :
    ((trimZeros n mantissa scale).1 : ℚ) / 10 ^ (trimZeros n mantissa scale).2 = mantissa / 10 ^ scale := by
  induction n generalizing mantissa scale with
  | zero => rfl
  | succ n ih =>
      rw [trimZeros]
      by_cases zero : scale ≠ 0 ∧ mantissa % 10 = 0
      · rw [if_pos zero, ih]
        obtain ⟨places, rfl⟩ := Nat.exists_eq_succ_of_ne_zero zero.1
        obtain ⟨tens, rfl⟩ := Nat.dvd_of_mod_eq_zero zero.2
        rw [Nat.mul_div_cancel_left tens (by decide), Nat.succ_sub_one, pow_succ]
        push_cast
        field_simp
      · rw [if_neg zero]

variable (d : Decimal)

theorem normalize_value : d.normalize.value = d.value := by
  by_cases none : d.mantissa = 0
  · rw [normalize, if_pos none, value_zero, value_of_zero d (by simp [isZero, none])]
  · have trimmed := trim_zeros_value d.scale d.mantissa d.scale
    rw [normalize, if_neg none]
    cases sign : d.negative with
    | false => simpa [value, signed, sign] using trimmed
    | true => simpa [value, signed, sign, neg_div] using trimmed

end Normalizing

end Decimal

namespace Http

variable (d : Decimal)

theorem amount_text_read : ∃ e, Amount.parse (amountText d) = .ok e ∧ e.value = d.value := by
  obtain ⟨e, read, alike⟩ := Decimal.parse_text d.normalize
  exact ⟨e, read, by rw [Decimal.alike_value e _ alike, Decimal.normalize_value]⟩

theorem amount_text_zero (none : d.value = 0) : amountText d = "0" := by
  have mantissa : d.mantissa = 0 := by
    have positive : (10 : ℚ) ^ d.scale ≠ 0 := by positivity
    have absolute := Decimal.abs_value d
    rw [none, abs_zero, eq_comm, div_eq_zero_iff] at absolute
    exact_mod_cast absolute.resolve_right positive
  rw [amountText, Decimal.normalize, if_pos mantissa]
  rfl

end Http

end DoubleEntry
