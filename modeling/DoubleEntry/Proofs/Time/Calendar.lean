import DoubleEntry.Time.Calendar
import Mathlib

/-!
Days and dates. A day lies in exactly one year, and in it in exactly one month; so a date that is made of a count of days is
a real one, and counts as many.
-/

set_option autoImplicit false

namespace DoubleEntry.Time.Date

section Years

theorem leap_year (year : Int) : isLeapYear year = true ↔ year % 4 = 0 ∧ (year % 100 ≠ 0 ∨ year % 400 = 0) := by
  simp only [isLeapYear, Bool.or_eq_true, Bool.and_eq_true, beq_iff_eq, bne_iff_ne]
  omega

theorem month_days (year : Int) : daysIn (monthLengths year) = if isLeapYear year then 366 else 365 := by
  rw [monthLengths]
  cases isLeapYear year <;> rfl

theorem year_length (year : Int) :
    daysBeforeYear (year + 1) = daysBeforeYear year + daysIn (monthLengths year) := by
  rw [month_days, daysBeforeYear, daysBeforeYear]
  by_cases isLeap : isLeapYear year = true
  · have rule := (leap_year year).mp isLeap
    rw [if_pos isLeap]
    omega
  · have rule := mt (leap_year year).mpr isLeap
    rw [if_neg isLeap]
    omega

-- The year that is guessed from the mean length of a year is off by one at most.
theorem guess_close (day : Int) :
    daysBeforeYear (400 * day / 146097 - 1) ≤ day ∧ day < daysBeforeYear (400 * day / 146097 + 2) := by
  simp only [daysBeforeYear]
  omega

theorem year_of_day (day : Int) : daysBeforeYear (yearOfDay day) ≤ day ∧ day < daysBeforeYear (yearOfDay day + 1) := by
  obtain ⟨low, high⟩ := guess_close day
  simp only [yearOfDay]
  by_cases later : daysBeforeYear (400 * day / 146097 + 1) ≤ day
  · rw [if_pos later, Int.add_assoc]
    exact ⟨later, high⟩
  · rw [if_neg later]
    by_cases earlier : day < daysBeforeYear (400 * day / 146097)
    · rw [if_pos earlier, Int.sub_add_cancel]
      exact ⟨low, earlier⟩
    · rw [if_neg earlier]
      exact ⟨Int.not_lt.mp earlier, Int.not_le.mp later⟩

end Years

-- Where a day of a year is found among the months from one of them on.
structure InMonth (lengths : List Nat) (first day : Nat) (found : Nat × Nat) : Prop where
  within : first ≤ found.1 ∧ found.1 < first + lengths.length
  short : 1 ≤ found.2 ∧ found.2 ≤ lengths.getD (found.1 - first) 0
  counts : daysIn (lengths.take (found.1 - first)) + found.2 = day + 1

theorem month_of_day (lengths : List Nat) (first day : Nat) (within : day < daysIn lengths) :
    InMonth lengths first day (monthOfDay lengths first day) := by
  induction lengths generalizing first day with
  | nil => cases within
  | cons length rest ih =>
      rw [monthOfDay]
      by_cases here : day < length
      · rw [if_pos here]
        refine ⟨⟨Nat.le_refl _, by simp⟩, ⟨by simp, ?_⟩, ?_⟩
        · simpa using here
        · simp [daysIn]
      · rw [if_neg here]
        have shorter : day - length < daysIn rest := by
          have whole : daysIn (length :: rest) = length + daysIn rest := rfl
          omega
        obtain ⟨⟨low, high⟩, days, counts⟩ := ih (first + 1) (day - length) shorter
        obtain ⟨places, behind⟩ := Nat.exists_eq_add_of_le low
        have place : (monthOfDay rest (first + 1) (day - length)).1 - first = places + 1 := by omega
        have later : (monthOfDay rest (first + 1) (day - length)).1 - (first + 1) = places := by omega
        rw [later] at days counts
        refine ⟨⟨by omega, by rw [List.length_cons]; omega⟩, ?_, ?_⟩
        · rw [place, List.getD_cons_succ]
          exact days
        · rw [place, List.take_succ_cons]
          change length + daysIn (rest.take places) + _ = _
          omega

section Days

variable (day : Int)

theorem day_in_year : (day - daysBeforeYear (yearOfDay day)).toNat < daysIn (monthLengths (yearOfDay day)) := by
  obtain ⟨low, high⟩ := year_of_day day
  rw [year_length] at high
  omega

theorem day_in_month : InMonth (monthLengths (yearOfDay day)) 1 (day - daysBeforeYear (yearOfDay day)).toNat
    ((ofDay day).month, (ofDay day).day) := month_of_day _ 1 _ (day_in_year day)

theorem to_day_of_day : (ofDay day).toDay = day := by
  have counts := (day_in_month day).counts
  have low := (year_of_day day).1
  have year : (ofDay day).year = yearOfDay day := rfl
  rw [toDay, year]
  simp only at counts
  omega

theorem month_bounds : 1 ≤ (ofDay day).month ∧ (ofDay day).month ≤ 12 := by
  obtain ⟨low, high⟩ := (day_in_month day).within
  have twelve : (monthLengths (yearOfDay day)).length = 12 := rfl
  simp only [twelve] at low high
  omega

theorem day_bounds : 1 ≤ (ofDay day).day ∧
    (ofDay day).day ≤ (monthLengths (ofDay day).year).getD ((ofDay day).month - 1) 0 := (day_in_month day).short

theorem month_short (year : Int) (month : Nat) : (monthLengths year).getD month 0 ≤ 31 := by
  have all : ∀ length ∈ monthLengths year, length ≤ 31 := by
    rw [monthLengths]
    cases isLeapYear year <;> decide
  rcases Nat.lt_or_ge month (monthLengths year).length with within | beyond
  · rw [List.getD_eq_getElem _ _ within]
    exact all _ (List.getElem_mem within)
  · rw [List.getD_eq_default _ _ beyond]
    exact Nat.zero_le _

theorem of_day_valid (year : firstYear ≤ (ofDay day).year ∧ (ofDay day).year ≤ lastYear) : (ofDay day).isValid = true := by
  have month := month_bounds day
  have days := day_bounds day
  simp only [isValid, Bool.and_eq_true, decide_eq_true_eq]
  exact ⟨⟨⟨⟨⟨year.1, year.2⟩, month.1⟩, month.2⟩, days.1⟩, days.2⟩

end Days

end DoubleEntry.Time.Date
