import DoubleEntry.Proofs.Text.Digits
import DoubleEntry.Proofs.Time.Calendar
import DoubleEntry.Time.Reader
import DoubleEntry.Word

/-!
Dates and times as texts. A moment of UTC in a year of four digits is read back from its text, to the nanosecond and with its
leap second, if it is one. Whatever the form in which a moment is read, it is one of UTC.
-/

set_option autoImplicit false

namespace DoubleEntry.Time

open Text

def padded (width n : Nat) : List Char := padLeft width '0' (digits n)

theorem padded_text (width n : Nat) : (paddedNat width n).toList = padded width n := String.toList_ofList

namespace Reader

def Ends (rest : List Char) : Prop := ∀ c, rest.head? = some c → c.isDigit = false

theorem digits_ahead (most : Nat) (found rest : List Char) (digit : ∀ c ∈ found, c.isDigit = true)
    (fits : found.length ≤ most) (ends : found.length = most ∨ Ends rest) :
    ((found ++ rest).take most).takeWhile Char.isDigit = found := by
  obtain ⟨more, rfl⟩ := Nat.exists_eq_add_of_le fits
  rw [List.take_length_add_append, List.takeWhile_append_of_pos digit]
  have nothing : (rest.take more).takeWhile Char.isDigit = [] := by
    rcases ends with all | ends
    · rw [show more = 0 by omega]
      rfl
    · cases rest with
      | nil => simp
      | cons c rest =>
          cases more with
          | zero => rfl
          | succ more => rw [List.take_succ_cons, List.takeWhile_cons_of_neg (by simp [ends c rfl])]
  rw [nothing, List.append_nil]

section Numbers

variable (width n : Nat) (rest : List Char) (wide : 0 < width) (fits : n < 10 ^ width)

include wide fits

theorem padded_opens : ∃ c more, padded width n = c :: more ∧ c.isDigit = true := by
  have digit := padded_digit width n
  have length := padded_length width n wide fits
  obtain ⟨c, more, shape⟩ := List.exists_cons_of_length_pos (length.symm ▸ wide)
  exact ⟨c, more, shape, digit c (shape ▸ List.mem_cons_self)⟩

theorem padded_ahead (most : Nat) (within : width ≤ most) (ends : width = most ∨ Ends rest) :
    ((padded width n ++ rest).take most).takeWhile Char.isDigit = padded width n := by
  have length := padded_length width n wide fits
  exact digits_ahead most _ rest (padded_digit width n) (length.symm ▸ within) (length.symm ▸ ends)

theorem number_taken (most : Nat) (within : width ≤ most) (ends : width = most ∨ Ends rest) (small : width ≤ 18) :
    number most (padded width n ++ rest) = .ok (n, rest) := by
  have narrow : n < twoTo 63 :=
    Nat.lt_of_lt_of_le fits (Nat.le_trans (Nat.pow_le_pow_right (by decide) small) (by decide))
  have value : natOfDigits (padded width n) = n := padded_value width n
  obtain ⟨c, more, shape, _⟩ := padded_opens width n wide fits
  have some : (padded width n).isEmpty = false := by
    rw [shape]
    rfl
  simp only [number, padded_ahead width n rest wide fits most within ends, some, Bool.not_false, if_true, value, narrow,
    List.drop_left]

theorem padded_solid : dropBlanks (padded width n ++ rest) = padded width n ++ rest := by
  obtain ⟨c, more, shape, _⟩ := padded_opens width n wide fits
  exact drop_blanks [] (padded width n) rest (fun _ none => by cases none) (shape ▸ List.cons_ne_nil c more)
    fun c member => digit_not_blank c (padded_digit width n c member)

end Numbers

theorem bounded_taken (low high n : Nat) (rest : List Char) (above : low ≤ n) (below : n ≤ high) (short : high < 100) :
    bounded low high (padded 2 n ++ rest) = .ok (n, rest) := by
  have fits : n < 10 ^ 2 := by omega
  rw [bounded, padded_solid 2 n rest (by decide) fits]
  simp only [number_taken 2 n rest (by decide) fits 2 (by decide) (.inl rfl) (by decide), bind, Except.bind, above, below,
    decide_true, Bool.and_self, if_true]

theorem separator_taken (mark : Char) (rest : List Char) (solid : isBlank mark = false) :
    separator mark (mark :: rest) = .ok rest := by
  rw [separator, dropBlanks, List.dropWhile_cons_of_neg (by simp [solid]), Reader.mark, if_pos (beq_self_eq_true mark)]

theorem year_taken (year : Nat) (rest : List Char) (fits : year < 10 ^ 4) :
    Reader.year (padded 4 year ++ rest) = .ok ((year : Int), rest) := by
  have number := number_taken 4 year rest (by decide) fits 4 (by decide) (.inl rfl) (by decide)
  have solid := padded_solid 4 year rest (by decide) fits
  obtain ⟨c, more, shape, digit⟩ := padded_opens 4 year (by decide) fits
  have minus : c ≠ '-' := by
    rintro rfl
    cases digit
  have plus : c ≠ '+' := by
    rintro rfl
    cases digit
  have within : -(twoTo 31 : Int) ≤ (year : Int) ∧ (year : Int) < twoTo 31 := by
    have wide : twoTo 31 = 2147483648 := rfl
    omega
  rw [shape, List.cons_append] at number solid ⊢
  rw [Reader.year, solid]
  split
  · next same => exact absurd (List.cons.inj same).1 minus
  · next same => exact absurd (List.cons.inj same).1 plus
  · simp [number, Except.map, bind, Except.bind, within.1, within.2]

theorem date_taken (d : Date) (year : Nat) (rest : List Char) (own : d.year = year) (fits : year < 10 ^ 4)
    (month : 1 ≤ d.month ∧ d.month ≤ 12) (day : 1 ≤ d.day ∧ d.day ≤ 31) :
    Reader.date (padded 4 year ++ '-' :: (padded 2 d.month ++ '-' :: (padded 2 d.day ++ rest))) = .ok (d, rest) := by
  have dash := fun more => separator_taken '-' more (by decide)
  rw [Reader.date, year_taken year _ fits]
  simp only [bind, Except.bind, dash, bounded_taken 1 12 d.month _ month.1 month.2 (by decide),
    bounded_taken 1 31 d.day rest day.1 day.2 (by decide), ← own]

section Fractions

variable (rest : List Char) (ends : Ends rest)

include ends

theorem fraction_digits (width part : Nat) (wide : 0 < width) (short : width ≤ 9) (fits : part < 10 ^ width) :
    fraction ('.' :: (padded width part ++ rest)) = .ok (part * tenTo (9 - width), rest) := by
  have length : (padded width part).length = width := padded_length width part wide fits
  have value : natOfDigits (padded width part) = part := padded_value width part
  have nothing : rest.dropWhile Char.isDigit = rest := by
    cases rest with
    | nil => rfl
    | cons c rest => exact List.dropWhile_cons_of_neg (by simp [ends c rfl])
  simp only [fraction, number_taken width part rest wide fits 9 short (.inr ends) (by omega), bind, Except.bind,
    padded_ahead width part rest wide fits 9 short (.inr ends), value, length, nothing]

theorem fraction_taken (nanos : Nat) (fits : nanos < nanosPerSecond) (point : rest.head? ≠ some '.') :
    fraction ((Moment.fractionText nanos).toList ++ rest) = .ok (nanos, rest) := by
  have whole : nanosPerSecond = 10 ^ 9 := rfl
  have million : tenTo 6 = 10 ^ 6 := rfl
  have thousand : tenTo 3 = 10 ^ 3 := rfl
  rw [Moment.fractionText]
  by_cases none : nanos = 0
  · subst none
    rw [if_pos rfl]
    change fraction rest = _
    rw [fraction]
    intro tail same
    rw [same] at point
    exact point rfl
  rw [if_neg none]
  by_cases millis : nanos % tenTo 6 = 0
  · rw [if_pos millis, String.toList_append, padded_text]
    change fraction ('.' :: (padded 3 (nanos / tenTo 6) ++ rest)) = _
    rw [fraction_digits rest ends 3 _ (by decide) (by decide) (by rw [million]; omega),
      Nat.div_mul_cancel (Nat.dvd_of_mod_eq_zero millis)]
  rw [if_neg millis]
  by_cases micros : nanos % tenTo 3 = 0
  · rw [if_pos micros, String.toList_append, padded_text]
    change fraction ('.' :: (padded 6 (nanos / tenTo 3) ++ rest)) = _
    rw [fraction_digits rest ends 6 _ (by decide) (by decide) (by rw [thousand]; omega),
      Nat.div_mul_cancel (Nat.dvd_of_mod_eq_zero micros)]
  · rw [if_neg micros, String.toList_append, padded_text]
    change fraction ('.' :: (padded 9 nanos ++ rest)) = _
    rw [fraction_digits rest ends 9 _ (by decide) (by decide) (by omega), show tenTo (9 - 9) = 1 from rfl, Nat.mul_one]

theorem clock_taken (hour minute second nanos : Nat) (hours : hour ≤ 23) (minutes : minute ≤ 59) (seconds : second ≤ 60)
    (fits : nanos < nanosPerSecond) (point : rest.head? ≠ some '.') :
    Reader.clock (padded 2 hour ++ ':' :: (padded 2 minute ++ ':' ::
        (padded 2 second ++ ((Moment.fractionText nanos).toList ++ rest)))) =
      .ok (⟨hour, minute, second, nanos⟩, rest) := by
  have colon := fun more => separator_taken ':' more (by decide)
  rw [Reader.clock]
  simp only [bind, Except.bind, colon, bounded_taken 0 23 hour _ (Nat.zero_le _) hours (by decide),
    bounded_taken 0 59 minute _ (Nat.zero_le _) minutes (by decide),
    bounded_taken 0 60 second _ (Nat.zero_le _) seconds (by decide), fraction_taken rest ends nanos fits point]

end Fractions

end Reader

namespace Moment

/-- A moment that clocks of UTC show: whole seconds beyond its own it has only as the leap second of a minute. -/
def IsUtc (m : Moment) : Prop := m.isLeapSecond = true → m.seconds % 60 = 59

def IsPlain (m : Moment) : Prop := 0 ≤ m.date.year ∧ m.date.year ≤ 9999

instance (m : Moment) : Decidable m.IsUtc := inferInstanceAs (Decidable (m.isLeapSecond = true → m.seconds % 60 = 59))

instance (m : Moment) : Decidable m.IsPlain := inferInstanceAs (Decidable (0 ≤ m.date.year ∧ m.date.year ≤ 9999))

section Written

variable (m : Moment)

theorem written_chars (plain : m.IsPlain) (zone : String) : ∃ year : Nat, m.date.year = year ∧ year < 10 ^ 4 ∧
    (m.write zone).toList = padded 4 year ++ '-' :: (padded 2 m.date.month ++ '-' :: (padded 2 m.date.day ++ 'T' ::
      (padded 2 (m.secondOfDay / 3600) ++ ':' :: (padded 2 (m.secondOfDay / 60 % 60) ++ ':' ::
        (padded 2 (m.secondOfDay % 60 + if m.isLeapSecond then 1 else 0) ++
          ((fractionText (m.nanos % nanosPerSecond)).toList ++ zone.toList)))))) := by
  obtain ⟨low, high⟩ := plain
  obtain ⟨year, own⟩ := Int.eq_ofNat_of_zero_le low
  refine ⟨year, own, by omega, ?_⟩
  have text : yearText m.date.year = paddedNat 4 year := by
    rw [yearText, own, if_pos (by simp; omega)]
    rfl
  simp only [write, text, String.toList_append, padded_text]
  simp

theorem seconds_split : (m.date.toDay - epochDay) * secondsPerDay + m.secondOfDay = m.seconds := by
  have day : secondsPerDay = 86400 := rfl
  rw [date, Date.to_day_of_day, secondOfDay, day]
  omega

theorem second_shown (utc : m.IsUtc) (shown : Nat) (own : shown = m.secondOfDay % 60 + if m.isLeapSecond then 1 else 0) :
    (if shown = 60 then 59 else shown) = m.secondOfDay % 60 ∧
      m.nanos % nanosPerSecond + Reader.leapNanos shown = m.nanos ∧ shown ≤ 60 := by
  have day : secondsPerDay = 86400 := rfl
  have whole : nanosPerSecond = 1000000000 := rfl
  have bound := m.nanos_lt
  have within : m.secondOfDay % 60 < 60 := Nat.mod_lt _ (by decide)
  rw [Reader.leapNanos]
  cases leap : m.isLeapSecond with
  | true =>
      have beyond : nanosPerSecond ≤ m.nanos := of_decide_eq_true leap
      have last : m.secondOfDay % 60 = 59 := by
        have minute := utc leap
        rw [secondOfDay, day]
        omega
      rw [leap, if_pos rfl, last] at own
      subst own
      rw [whole] at bound beyond
      rw [if_pos rfl, if_pos rfl, whole]
      omega
  | false =>
      have below : m.nanos < nanosPerSecond := Nat.lt_of_not_le (of_decide_eq_false leap)
      rw [leap, if_neg Bool.false_ne_true, Nat.add_zero] at own
      have other : shown ≠ 60 := by omega
      rw [whole] at below
      rw [if_neg other, if_neg other, whole]
      omega

theorem moment_restored (plain : m.IsPlain) (utc : m.IsUtc) :
    Reader.moment m.date ⟨m.secondOfDay / 3600, m.secondOfDay / 60 % 60,
      m.secondOfDay % 60 + if m.isLeapSecond then 1 else 0, m.nanos % nanosPerSecond⟩ 0 = .ok m := by
  obtain ⟨low, high⟩ := plain
  have years : Date.firstYear ≤ m.date.year ∧ m.date.year ≤ Date.lastYear := by
    have first : Date.firstYear = -262143 := rfl
    have last : Date.lastYear = 262142 := rfl
    omega
  have valid : m.date.isValid = true := Date.of_day_valid _ years
  obtain ⟨second, nanos, -⟩ := second_shown m utc _ rfl
  have clock : m.secondOfDay / 3600 * 3600 + m.secondOfDay / 60 % 60 * 60 + m.secondOfDay % 60 = m.secondOfDay := by omega
  have offsets : ¬ (secondsPerDay ≤ 0 ∨ (0 : Int) ≤ -secondsPerDay) := by decide
  simp only [Reader.moment, valid, Bool.not_true, Bool.false_eq_true, if_false, Bool.or_eq_true, decide_eq_true_eq, offsets,
    second, nanos, clock, seconds_split, Int.sub_zero]
  rw [dif_pos m.nanos_lt, if_pos (by simpa using years)]

theorem parse_written (plain : m.IsPlain) (utc : m.IsUtc) : Moment.parse m.withZ = .ok m := by
  obtain ⟨year, own, fits, chars⟩ := written_chars m plain "Z"
  obtain ⟨-, -, short⟩ := second_shown m utc _ rfl
  have ends : Reader.Ends "Z".toList := by
    rintro c ⟨⟩
    rfl
  have within : m.secondOfDay < 86400 := by
    have day : secondsPerDay = 86400 := rfl
    rw [secondOfDay, day]
    omega
  have month := Date.month_bounds (m.seconds / secondsPerDay + epochDay)
  have day := Date.day_bounds (m.seconds / secondsPerDay + epochDay)
  have read := Reader.date_taken m.date year ('T' :: (padded 2 (m.secondOfDay / 3600) ++ ':' ::
    (padded 2 (m.secondOfDay / 60 % 60) ++ ':' :: (padded 2 (m.secondOfDay % 60 + if m.isLeapSecond then 1 else 0) ++
      ((fractionText (m.nanos % nanosPerSecond)).toList ++ "Z".toList))))) own fits month
    ⟨day.1, Nat.le_trans day.2 (Date.month_short _ _)⟩
  have clock := Reader.clock_taken "Z".toList ends (m.secondOfDay / 3600) (m.secondOfDay / 60 % 60)
    (m.secondOfDay % 60 + if m.isLeapSecond then 1 else 0) (m.nanos % nanosPerSecond) (by omega) (by omega) short
    (Nat.mod_lt _ (by decide)) (by decide)
  have mark : ∀ rest, Reader.dateMark ('T' :: rest) = .ok rest := fun _ => rfl
  have zone : Reader.zone "Z".toList = .ok (0, []) := rfl
  have nothing : (dropBlanks []).isEmpty = true := rfl
  rw [Moment.parse, withZ, chars, read]
  simp only [bind, Except.bind, mark, clock, zone, nothing, if_true, moment_restored m plain utc]

end Written
end Moment

namespace Reader

theorem digits_small (found : List Char) (digit : ∀ c ∈ found, c.isDigit = true) (short : found.length ≤ 9) :
    natOfDigits found * tenTo (9 - found.length) < nanosPerSecond := by
  have below := (digit_chars_between found 0 digit).2
  rw [Nat.zero_add, Nat.one_mul, ← nat_of_digits] at below
  have whole : nanosPerSecond = 10 ^ found.length * 10 ^ (9 - found.length) := by
    rw [← Nat.pow_add, Nat.add_sub_cancel' short]
    rfl
  rw [whole]
  exact Nat.mul_lt_mul_of_pos_right below (ten_to_pos _)

theorem fraction_small (text rest : List Char) (nanos : Nat) (read : fraction text = .ok (nanos, rest)) :
    nanos < nanosPerSecond := by
  rw [fraction.eq_def] at read
  split at read
  · next digits =>
      obtain ⟨_, _, read⟩ := bound_ok _ _ _ read
      cases read
      refine digits_small _ (fun c member => ?_) ?_
      · exact List.mem_takeWhile_imp member
      · exact Nat.le_trans (List.takeWhile_sublist _).length_le (List.length_take_le _ _)
  · cases read
    decide

theorem clock_small (text rest : List Char) (c : Clock) (read : Reader.clock text = .ok (c, rest)) :
    c.nanos < nanosPerSecond := by
  obtain ⟨_, _, read⟩ := bound_ok _ _ _ read
  obtain ⟨_, _, read⟩ := bound_ok _ _ _ read
  obtain ⟨_, _, read⟩ := bound_ok _ _ _ read
  obtain ⟨_, _, read⟩ := bound_ok _ _ _ read
  obtain ⟨_, _, read⟩ := bound_ok _ _ _ read
  obtain ⟨⟨nanos, after⟩, small, read⟩ := bound_ok _ _ _ read
  cases read
  exact fraction_small _ _ _ small

theorem size_minutes (text rest : List Char) (seconds : Int) (read : offsetSize text = .ok (seconds, rest)) :
    seconds % 60 = 0 := by
  obtain ⟨_, _, read⟩ := bound_ok _ _ _ read
  obtain ⟨_, _, read⟩ := bound_ok _ _ _ read
  simp only at read
  split at read
  · cases read
    simp only [Int.ofNat_eq_natCast]
    omega
  · cases read

theorem offset_minutes (text rest : List Char) (seconds : Int) (read : offset text = .ok (seconds, rest)) :
    seconds % 60 = 0 := by
  rw [offset.eq_def] at read
  split at read
  · cases read
  · split at read
    · cases read
      rfl
    · split at read
      · exact size_minutes _ _ _ read
      · split at read
        · cases size : offsetSize _ with
          | error e =>
              rw [size] at read
              cases read
          | ok found =>
              rw [size] at read
              cases read
              have minutes := size_minutes _ _ _ size
              omega
        · cases read

theorem zone_minutes (text rest : List Char) (seconds : Int) (read : zone text = .ok (seconds, rest)) :
    seconds % 60 = 0 := by
  simp only [zone] at read
  split at read
  · cases read
    rfl
  · exact offset_minutes _ _ _ read

theorem moment_utc (d : Date) (c : Clock) (offset : Int) (m : Moment) (read : Reader.moment d c offset = .ok m)
    (small : c.nanos < nanosPerSecond) (minutes : offset % 60 = 0) : m.IsUtc := by
  have day : secondsPerDay = 86400 := rfl
  obtain ⟨shown, own⟩ : ∃ shown, shown = if c.second = 60 then 59 else c.second := ⟨_, rfl⟩
  simp only [Reader.moment, ← own] at read
  split at read
  · cases read
  · split at read
    · cases read
    · split at read
      · split at read
        · cases read
          intro leap
          have beyond : nanosPerSecond ≤ c.nanos + leapNanos c.second := of_decide_eq_true leap
          have last : c.second = 60 := by
            by_contra other
            rw [leapNanos, if_neg other] at beyond
            omega
          rw [if_pos last] at own
          simp only [own, day]
          omega
        · cases read
      · cases read

end Reader

theorem Moment.parsed_utc (text : String) (m : Moment) (read : Moment.parse text = .ok m) : m.IsUtc := by
  obtain ⟨⟨d, _⟩, _, read⟩ := bound_ok _ _ _ read
  obtain ⟨_, _, read⟩ := bound_ok _ _ _ read
  obtain ⟨⟨c, _⟩, clock, read⟩ := bound_ok _ _ _ read
  obtain ⟨⟨offset, rest⟩, zone, read⟩ := bound_ok _ _ _ read
  simp only at read
  split at read
  · exact Reader.moment_utc d c offset m read (Reader.clock_small _ _ c clock) (Reader.zone_minutes _ _ _ zone)
  · cases read

end DoubleEntry.Time
