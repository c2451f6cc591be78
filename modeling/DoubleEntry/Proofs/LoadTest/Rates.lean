import DoubleEntry.LoadTest.Report
import DoubleEntry.Proofs.Decimal.Numeral

/-!
Ratios and rates, as they are written. A number of hundredths is written as a numeral with two digits behind the point, and the
divisions leave as many hundredths as are whole in the exact number; so the text is that number cut off, and never rounded up.
-/

set_option autoImplicit false

namespace DoubleEntry

open Text

namespace Numeral

def inHundredths (n : ℕ) : Numeral where
  negative := false
  whole := digits (n / 100)
  fraction := padLeft 2 '0' (digits (n % 100))
  some := Nat.toDigits_ne_nil
  digit := by
    intro c member
    rcases List.mem_append.mp member with whole | fraction
    · exact digits_digit _ c whole
    · exact padded_digit 2 _ c fraction

theorem two_places (m : Numeral) (places : m.fraction.length = 2) : m.value = m.signed / 100 := by
  rw [value, places]
  norm_num

section Hundredths

variable (n : ℕ)

theorem hundredths_places : (inHundredths n).fraction.length = 2 :=
  padded_length 2 (n % 100) (by decide) (Nat.mod_lt n (by decide))

theorem hundredths_count : (inHundredths n).count = n := by
  have whole : Nat.ofDigitChars 10 (digits (n / 100)) 0 = n / 100 := Nat.ofDigitChars_ten_toDigits
  have fraction : Nat.ofDigitChars 10 (padLeft 2 '0' (digits (n % 100))) 0 = n % 100 :=
    (nat_of_digits _ 0).symm.trans (padded_value 2 (n % 100))
  have places : (padLeft 2 '0' (digits (n % 100))).length = 2 := hundredths_places n
  calc
    (inHundredths n).count = Nat.ofDigitChars 10 (padLeft 2 '0' (digits (n % 100))) (n / 100) := by
      rw [count, inHundredths, Nat.ofDigitChars_append, whole]
    _ = 10 ^ 2 * (n / 100) + n % 100 := by rw [Nat.ofDigitChars_eq_ofDigitChars_zero, fraction, places]
    _ = n := Nat.div_add_mod n 100

theorem hundredths_value : (inHundredths n).value = n / 100 := by
  have signed : (inHundredths n).signed = n := congrArg Nat.cast (hundredths_count n)
  rw [two_places _ (hundredths_places n), signed, Int.cast_natCast]

end Hundredths

/-- A number without a sign whose digits are those of another up to the second behind the point: of all numbers with two digits
there, it is the greatest that is no more than the other. -/
structure CutOff (n : Numeral) (x : ℚ) : Prop where
  unsigned : n.negative = false
  -- Hence no zero is in front of the whole part.
  whole : n.whole = digits ⌊x⌋₊
  places : n.fraction.length = 2
  below : n.value ≤ x
  above : x < n.value + 1 / 100
  greatest : ∀ m : Numeral, m.fraction.length = 2 → m.value ≤ x → m.value ≤ n.value

theorem floor_cut_off (x : ℚ) (nonneg : 0 ≤ x) : (inHundredths ⌊100 * x⌋₊).CutOff x := by
  have low : (⌊100 * x⌋₊ : ℚ) ≤ 100 * x := Nat.floor_le (by positivity)
  have high : 100 * x < ⌊100 * x⌋₊ + 1 := Nat.lt_floor_add_one _
  have value := hundredths_value ⌊100 * x⌋₊
  refine ⟨rfl, ?_, hundredths_places _, ?_, ?_, ?_⟩
  · have parts : ⌊x⌋₊ = ⌊100 * x⌋₊ / 100 := by
      rw [← Nat.floor_div_natCast, Nat.cast_ofNat, mul_div_cancel_left₀ x (by norm_num)]
    rw [parts]
    rfl
  · rw [value]
    linarith
  · rw [value]
    linarith
  · intro m places less
    rw [two_places m places] at less ⊢
    rw [value]
    -- Hundredths are whole, so there is none between the floor and its successor.
    have next : (m.signed : ℚ) < ⌊100 * x⌋₊ + 1 := by linarith
    have most : m.signed ≤ ⌊100 * x⌋₊ := Int.lt_add_one_iff.mp (by exact_mod_cast next)
    have bound : (m.signed : ℚ) ≤ ⌊100 * x⌋₊ := by exact_mod_cast most
    linarith

theorem quotient_cut_off (x : ℚ) (a b : ℕ) (scaled : 100 * x = a / b) : (inHundredths (a / b)).CutOff x := by
  have nonneg : (0 : ℚ) ≤ a / b := by positivity
  have floor := floor_cut_off x (by linarith)
  rwa [scaled, Nat.floor_div_eq_div] at floor

end Numeral

namespace LoadTest

open Time (Span)
open Numeral (inHundredths)

-- The one numeral that a text is, with a unit behind it.
def Reads (text unit : String) (n : Numeral) : Prop := ∀ m : Numeral, text = String.ofList m.text ++ unit ↔ m = n

theorem hundredths_text (n : ℕ) : hundredths n = String.ofList (inHundredths n).text := by
  have some : (inHundredths n).fraction ≠ [] := List.ne_nil_of_length_eq_add_one (Numeral.hundredths_places n)
  have whole : (toString (n / 100)).toList = digits (n / 100) := Nat.toList_repr
  have shape : (inHundredths n).text = digits (n / 100) ++ '.' :: padLeft 2 '0' (digits (n % 100)) := by
    rw [Numeral.text, Numeral.magnitude, if_neg some]
    rfl
  apply String.toList_inj.mp
  rw [hundredths, shape, String.toList_append, String.toList_append, whole, paddedNat, String.toList_ofList,
    String.toList_ofList, String.toList_ofList, List.append_assoc]
  rfl

theorem hundredths_read (n : ℕ) (unit : String) : Reads (hundredths n ++ unit) unit (inHundredths n) := by
  intro m
  rw [hundredths_text, String.append_left_inj]
  constructor
  · intro same
    exact Numeral.text_unique m _ (String.ofList_injective same).symm
  · rintro rfl
    rfl

section Ratios

variable (part whole : ℕ)

theorem ratio_written (some : 0 < whole) (narrow : part * 10000 < Word.bound) :
    ratio part whole = .ok (hundredths (part * 10000 / whole) ++ "%") := by
  have other : whole ≠ 0 := Nat.ne_of_gt some
  rw [ratio, if_neg other, Word.mul, if_pos narrow, ratioText, if_neg other]
  rfl

theorem ratio_cut_off : (inHundredths (part * 10000 / whole)).CutOff (100 * part / whole) := by
  apply Numeral.quotient_cut_off
  push_cast
  ring

theorem ratio_complete (some : 0 < whole) (within : part ≤ whole) :
    hundredths (part * 10000 / whole) ++ "%" = "100.00%" ↔ part = whole := by
  have hundred : "100.00%" = String.ofList (inHundredths 10000).text ++ "%" := by decide
  constructor
  · intro shown
    have same := (hundredths_read _ "%" (inHundredths 10000)).mp (shown.trans hundred)
    have below := (ratio_cut_off part whole).below
    rw [← same, Numeral.hundredths_value, le_div_iff₀ (by exact_mod_cast some)] at below
    have most : (whole : ℚ) ≤ part := by
      push_cast at below
      linarith
    exact le_antisymm within (by exact_mod_cast most)
  · rintro rfl
    rw [Nat.mul_div_cancel_left _ some]
    decide

end Ratios

section Rates

variable (requests : ℕ) (elapsed : Span)

theorem rate_written (fits : requests * 100000 < twoTo 128) :
    rateText requests elapsed = hundredths (requests * 100000 / max (elapsed.nanos / 10 ^ 6) 1) := by
  have kept : Nat.min (requests * 100000) (twoTo 128 - 1) = requests * 100000 := Nat.min_eq_left (Nat.le_pred_of_lt fits)
  rw [rateText, kept]
  rfl

theorem rate_cut_off : (inHundredths (requests * 100000 / max (elapsed.nanos / 10 ^ 6) 1)).CutOff
    (1000 * requests / (max (elapsed.nanos / 10 ^ 6) 1 : ℕ)) := by
  generalize max (elapsed.nanos / 10 ^ 6) 1 = millis
  apply Numeral.quotient_cut_off
  push_cast
  ring

end Rates

/-- A ratio in percent and a rate per second are cut off behind two digits, both of which are always written; so no part but the
whole is shown as all of it. A time of less than a millisecond counts as one. -/
theorem ratios_and_rates_are_floors (part whole : ℕ) (some : 0 < whole) (narrow : part * 10000 < Word.bound)
    (requests : ℕ) (elapsed : Span) (fits : requests * 100000 < twoTo 128) :
    (∃ text n, ratio part whole = .ok text ∧ Reads text "%" n ∧ n.CutOff (100 * part / whole) ∧
      (part ≤ whole → (text = "100.00%" ↔ part = whole))) ∧
    ∃ n, Reads (rateText requests elapsed) "" n ∧ n.CutOff (1000 * requests / (max (elapsed.nanos / 10 ^ 6) 1 : ℕ)) := by
  constructor
  · exact ⟨_, _, ratio_written part whole some narrow, hundredths_read _ "%", ratio_cut_off part whole,
      ratio_complete part whole some⟩
  · refine ⟨_, ?_, rate_cut_off requests elapsed⟩
    have reads := hundredths_read (requests * 100000 / max (elapsed.nanos / 10 ^ 6) 1) ""
    rwa [String.append_empty, ← rate_written requests elapsed fits] at reads

-- A ratio that would be rounded up to the whole, and a rate with a zero behind the point.
theorem ratios_and_rates_are_floors_short :
    let part := 19999
    let whole := 20000
    let elapsed : Span := .ofMillis 33000
    0 < whole ∧ part * 10000 < Word.bound ∧ 1 * 100000 < twoTo 128 ∧ ratio part whole = .ok "99.99%" ∧
      rateText 1 elapsed = "0.03" ∧ (∃ n, Reads "99.99%" "%" n ∧ n.CutOff (100 * part / whole)) ∧
      ∃ n, Reads "0.03" "" n ∧ n.CutOff (1000 * (1 : ℕ) / (33000 : ℕ)) := by
  intro part whole elapsed
  have narrow : part * 10000 < Word.bound := by decide
  have fits : 1 * 100000 < twoTo 128 := by decide
  have shown : ratio part whole = .ok "99.99%" := by decide
  have rate : rateText 1 elapsed = "0.03" := by decide
  obtain ⟨⟨text, n, found, reads, cut, _⟩, m, readsRate, cutRate⟩ :=
    ratios_and_rates_are_floors part whole (by decide) narrow 1 elapsed fits
  cases shown.symm.trans found
  have millis : max (elapsed.nanos / 10 ^ 6) 1 = 33000 := by decide
  rw [rate] at readsRate
  rw [millis] at cutRate
  exact ⟨by decide, narrow, fits, shown, rate, ⟨n, reads, cut⟩, m, readsRate, cutRate⟩

end LoadTest

end DoubleEntry
