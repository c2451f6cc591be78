import DoubleEntry.Proofs.Amount.Rounding
import DoubleEntry.Proofs.Text.Digits

/-!
Plain numerals: a sign, digits, and behind a point more digits. A numeral is read digit by digit, and what is read of it is
the number it stands for whenever a decimal can hold that number: what is left out then is zeros.
-/

set_option autoImplicit false

namespace DoubleEntry

open Text

structure Numeral where
  negative : Bool
  whole : List Char
  fraction : List Char
  some : whole ≠ []
  digit : ∀ c ∈ whole ++ fraction, c.isDigit = true

namespace Numeral

variable (n : Numeral)

def magnitude : List Char := if n.fraction = [] then n.whole else n.whole ++ '.' :: n.fraction

def text : List Char := if n.negative then '-' :: n.magnitude else n.magnitude

def count : Nat := Nat.ofDigitChars 10 (n.whole ++ n.fraction) 0

def signed : Int := if n.negative then -(n.count : Int) else n.count

def value : ℚ := n.signed / 10 ^ n.fraction.length

theorem magnitude_opens : ∃ c rest, c.isDigit = true ∧ n.magnitude = c :: rest := by
  obtain ⟨c, rest, shape⟩ := List.exists_cons_of_ne_nil n.some
  have digit := n.digit c (by rw [shape]; exact List.mem_cons_self)
  rw [magnitude, shape]
  split
  · exact ⟨c, rest, digit, rfl⟩
  · exact ⟨c, rest ++ '.' :: n.fraction, digit, rfl⟩

theorem text_some : n.text ≠ [] := by
  obtain ⟨c, rest, _, shape⟩ := n.magnitude_opens
  rw [text, shape]
  split <;> exact List.cons_ne_nil _ _

theorem text_chars : ∀ c ∈ n.text, c = '-' ∨ c = '.' ∨ c.isDigit = true := by
  have magnitude : ∀ c ∈ n.magnitude, c = '.' ∨ c.isDigit = true := by
    intro c member
    rw [Numeral.magnitude] at member
    split at member
    · exact .inr (n.digit c (List.mem_append_left _ member))
    · rcases List.mem_append.mp member with before | behind
      · exact .inr (n.digit c (List.mem_append_left _ before))
      · rcases List.mem_cons.mp behind with point | after
        · exact .inl point
        · exact .inr (n.digit c (List.mem_append_right _ after))
  intro c member
  rw [text] at member
  split at member
  · rcases List.mem_cons.mp member with minus | own
    · exact .inl minus
    · exact .inr (magnitude c own)
  · exact .inr (magnitude c member)

theorem text_plain : ∀ c ∈ n.text, isBlank c = false := by
  intro c member
  rcases n.text_chars c member with rfl | rfl | digit
  · decide
  · decide
  · exact digit_not_blank c digit

theorem whole_taken : n.magnitude.takeWhile Char.isDigit = n.whole := by
  have digits : ∀ c ∈ n.whole, c.isDigit = true := fun c member => n.digit c (List.mem_append_left _ member)
  rw [magnitude]
  split
  · exact List.takeWhile_eq_self_iff.mpr digits
  · rw [List.takeWhile_append_of_pos digits, List.takeWhile_cons_of_neg (by decide), List.append_nil]

theorem fraction_left : (n.magnitude.dropWhile Char.isDigit).tail = n.fraction := by
  have digits : ∀ c ∈ n.whole, c.isDigit = true := fun c member => n.digit c (List.mem_append_left _ member)
  rw [magnitude]
  split
  next none => rw [List.dropWhile_eq_nil_iff.mpr digits, none, List.tail_nil]
  next => rw [List.dropWhile_append_of_pos digits, List.dropWhile_cons_of_neg (by decide), List.tail_cons]

theorem text_sign : n.text.head? = Option.some '-' ↔ n.negative = true := by
  obtain ⟨c, rest, digit, shape⟩ := n.magnitude_opens
  rw [text, shape]
  cases n.negative with
  | true => simp
  | false =>
      have other : c ≠ '-' := by
        rintro rfl
        cases digit
      simp [other]

theorem text_unique (a b : Numeral) (same : a.text = b.text) : a = b := by
  have negative : a.negative = b.negative := by
    rw [Bool.eq_iff_iff, ← text_sign, ← text_sign, same]
  have magnitude : a.magnitude = b.magnitude := by
    rw [text, text, negative] at same
    split at same
    · exact List.tail_eq_of_cons_eq same
    · exact same
  have whole : a.whole = b.whole := by rw [← whole_taken, ← whole_taken, magnitude]
  have fraction : a.fraction = b.fraction := by rw [← fraction_left, ← fraction_left, magnitude]
  cases a
  cases b
  cases negative
  cases whole
  cases fraction
  rfl

end Numeral

namespace Decimal

section Reading

theorem whole_digits (text rest : List Char) (seen : Bool) (n : Nat) (digits : ∀ c ∈ text, c.isDigit = true)
    (fits : Nat.ofDigitChars 10 text n < mantissaBound) :
    readWhole seen n (text ++ rest) = readWhole (seen || !text.isEmpty) (Nat.ofDigitChars 10 text n) rest := by
  induction text generalizing seen n with
  | nil => simp
  | cons c text ih =>
      have digit := digits c List.mem_cons_self
      rw [digit_chars_cons] at fits ⊢
      have narrow : n * 10 + digitValue c < mantissaBound := Nat.lt_of_le_of_lt (digit_chars_grow text _) fits
      rw [List.cons_append, readWhole, if_pos digit, if_pos narrow,
        ih true _ (fun other member => digits other (List.mem_cons_of_mem _ member)) fits]
      simp

theorem fraction_digits (text : List Char) (n scale : Nat) (digits : ∀ c ∈ text, c.isDigit = true)
    (fits : Nat.ofDigitChars 10 text n < mantissaBound) (room : scale + text.length ≤ maxScale) :
    readFraction true n scale text = some (Nat.ofDigitChars 10 text n, scale + text.length) := by
  induction text generalizing n scale with
  | nil => rfl
  | cons c text ih =>
      have digit := digits c List.mem_cons_self
      rw [List.length_cons] at room ⊢
      rw [digit_chars_cons] at fits ⊢
      have narrow : n * 10 + digitValue c < mantissaBound := Nat.lt_of_le_of_lt (digit_chars_grow text _) fits
      rw [readFraction, if_neg (by omega), if_pos digit, if_pos narrow,
        ih _ (scale + 1) (fun other member => digits other (List.mem_cons_of_mem _ member)) fits (by omega),
        Nat.add_assoc, Nat.add_comm 1]

end Reading

-- A number that a decimal holds, as all the digits of a text with a point before the last of them.
section Exact

variable (mantissa scale : ℕ) (fits : mantissa < mantissaBound) (room : scale ≤ maxScale)

theorem nothing_left (text : List Char) (n read : ℕ) (digits : ∀ c ∈ text, c.isDigit = true) (enough : scale ≤ read)
    (exact : Nat.ofDigitChars 10 text n * 10 ^ scale = mantissa * 10 ^ (read + text.length)) :
    Nat.ofDigitChars 10 text n = n * 10 ^ text.length := by
  obtain ⟨low, high⟩ := digit_chars_between text n digits
  have split : (10 : ℕ) ^ (read + text.length) = 10 ^ (read - scale) * 10 ^ text.length * 10 ^ scale := by
    rw [← pow_add, ← pow_add]
    congr 1
    omega
  have total : Nat.ofDigitChars 10 text n = mantissa * 10 ^ (read - scale) * 10 ^ text.length := by
    rw [split, ← mul_assoc, ← mul_assoc] at exact
    exact Nat.eq_of_mul_eq_mul_right (by positivity) exact
  rw [total] at low high ⊢
  have least := Nat.le_of_mul_le_mul_right low (by positivity)
  have most := Nat.lt_of_mul_lt_mul_right high
  rw [Nat.le_antisymm (Nat.le_of_lt_succ most) least]

theorem zero_skipped (c : Char) (rest : List Char) (n read : ℕ) (digits : ∀ other ∈ c :: rest, other.isDigit = true)
    (zero : digitValue c = 0) : roundRest n read (c :: rest) = some (n, read) := by
  have filler : (c :: rest).all isFiller = true := by
    rw [List.all_eq_true]
    intro other member
    simp [isFiller, digits other member]
  rw [roundRest, if_pos filler, List.find?_cons_of_pos (digits c List.mem_cons_self)]
  simp only [roundOff, zero]
  rfl

theorem rest_skipped (c : Char) (rest : List Char) (n read : ℕ) (digits : ∀ other ∈ c :: rest, other.isDigit = true)
    (enough : scale ≤ read)
    (exact : Nat.ofDigitChars 10 (c :: rest) n * 10 ^ scale = mantissa * 10 ^ (read + (c :: rest).length)) :
    roundRest n read (c :: rest) = some (n, read) ∧
      n * 10 ^ (read + (c :: rest).length) = Nat.ofDigitChars 10 (c :: rest) n * 10 ^ read := by
  have nothing := nothing_left mantissa scale (c :: rest) n read digits enough exact
  constructor
  · apply zero_skipped c rest n read digits
    obtain ⟨low, _⟩ := digit_chars_between rest (n * 10 + digitValue c)
      (fun other member => digits other (List.mem_cons_of_mem _ member))
    rw [digit_chars_cons, List.length_cons, pow_succ', ← mul_assoc] at nothing
    rw [nothing] at low
    have least := Nat.le_of_mul_le_mul_right low (by positivity)
    omega
  · rw [nothing, pow_add]
    ring

include fits room in
theorem fraction_exact (text : List Char) (n read : ℕ) (digits : ∀ c ∈ text, c.isDigit = true)
    (narrow : n < mantissaBound) (short : read ≤ maxScale)
    (exact : Nat.ofDigitChars 10 text n * 10 ^ scale = mantissa * 10 ^ (read + text.length)) :
    ∃ m places, readFraction true n read text = some (m, places) ∧ m < mantissaBound ∧ places ≤ maxScale ∧
      m * 10 ^ (read + text.length) = Nat.ofDigitChars 10 text n * 10 ^ places := by
  induction text generalizing n read with
  | nil => exact ⟨n, read, rfl, narrow, short, rfl⟩
  | cons c rest ih =>
      have digit := digits c List.mem_cons_self
      have others := fun other member => digits other (List.mem_cons_of_mem c member)
      have skipped := rest_skipped mantissa scale c rest n read digits
      by_cases full : maxScale ≤ read
      · obtain ⟨kept, same⟩ := skipped (Nat.le_trans room full) exact
        exact ⟨n, read, by rw [readFraction, if_pos full, kept], narrow, short, same⟩
      · by_cases wide : n * 10 + digitValue c < mantissaBound
        · have step : read + (c :: rest).length = read + 1 + rest.length := by
            rw [List.length_cons]
            omega
          rw [step, digit_chars_cons] at exact ⊢
          rw [readFraction, if_neg full, if_pos digit, if_pos wide]
          exact ih _ (read + 1) others wide (by omega) exact
        · -- A digit that does not fit is not one of the number.
          have enough : scale ≤ read := by
            by_contra more
            obtain ⟨low, _⟩ := digit_chars_between rest (n * 10 + digitValue c) others
            have bound : (n * 10 + digitValue c) * 10 ^ rest.length * 10 ^ scale ≤
                mantissa * 10 ^ scale * 10 ^ rest.length := by
              calc (n * 10 + digitValue c) * 10 ^ rest.length * 10 ^ scale
                  ≤ Nat.ofDigitChars 10 (c :: rest) n * 10 ^ scale := by
                    rw [digit_chars_cons]
                    exact Nat.mul_le_mul_right _ low
                _ = mantissa * 10 ^ (read + 1 + rest.length) := by
                    rw [exact, List.length_cons, Nat.add_right_comm, Nat.add_assoc]
                _ = mantissa * 10 ^ (read + 1) * 10 ^ rest.length := by rw [pow_add, mul_assoc]
                _ ≤ mantissa * 10 ^ scale * 10 ^ rest.length :=
                    Nat.mul_le_mul_right _ (Nat.mul_le_mul_left _ (Nat.pow_le_pow_right (by decide) (by omega)))
            rw [Nat.mul_right_comm] at bound
            have small := Nat.le_of_mul_le_mul_right (Nat.le_of_mul_le_mul_right bound (by positivity)) (by positivity)
            omega
          obtain ⟨kept, same⟩ := skipped enough exact
          exact ⟨n, read, by rw [readFraction, if_neg full, if_pos digit, if_neg wide, kept], narrow, short, same⟩

end Exact

section Numerals

variable (n : Numeral)

theorem magnitude_whole (fits : Nat.ofDigitChars 10 n.whole 0 < mantissaBound) :
    readWhole false 0 n.magnitude = readFraction true (Nat.ofDigitChars 10 n.whole 0) 0 n.fraction := by
  have first := fun rest => whole_digits n.whole rest false 0 (fun c member => n.digit c (List.mem_append_left _ member)) fits
  have seen : (false || !n.whole.isEmpty) = true := by simpa using n.some
  rw [seen] at first
  rw [Numeral.magnitude]
  by_cases none : n.fraction = []
  · have read := first []
    rw [List.append_nil] at read
    rw [if_pos none, none, read]
    rfl
  · rw [if_neg none, first]
    rfl

theorem whole_count : Nat.ofDigitChars 10 n.fraction (Nat.ofDigitChars 10 n.whole 0) = n.count :=
  (Nat.ofDigitChars_append 0).symm

theorem magnitude_digits (fits : n.count < mantissaBound) (room : n.fraction.length ≤ maxScale) :
    readWhole false 0 n.magnitude = some (n.count, n.fraction.length) := by
  rw [← whole_count] at fits ⊢
  rw [magnitude_whole n (Nat.lt_of_le_of_lt (digit_chars_grow n.fraction _) fits),
    fraction_digits n.fraction _ 0 (fun c member => n.digit c (List.mem_append_right _ member)) fits (by omega), Nat.zero_add]

theorem magnitude_exact (mantissa scale : ℕ) (fits : mantissa < mantissaBound) (room : scale ≤ maxScale)
    (exact : n.count * 10 ^ scale = mantissa * 10 ^ n.fraction.length) :
    ∃ m places, readWhole false 0 n.magnitude = some (m, places) ∧ m < mantissaBound ∧ places ≤ maxScale ∧
      m * 10 ^ n.fraction.length = n.count * 10 ^ places := by
  have digits := fun c member => n.digit c (List.mem_append_right _ member)
  rw [← whole_count] at exact ⊢
  have narrow : Nat.ofDigitChars 10 n.whole 0 < mantissaBound := by
    obtain ⟨low, _⟩ := digit_chars_between n.fraction (Nat.ofDigitChars 10 n.whole 0) digits
    have bound := Nat.mul_le_mul_right (10 ^ scale) low
    rw [exact, Nat.mul_right_comm] at bound
    have scaled := Nat.le_of_mul_le_mul_right bound (by positivity)
    exact Nat.lt_of_le_of_lt (Nat.le_trans (Nat.le_mul_of_pos_right _ (by positivity)) scaled) fits
  rw [magnitude_whole n narrow]
  have behind := fraction_exact mantissa scale fits room n.fraction _ 0 digits narrow (Nat.zero_le _)
  rw [Nat.zero_add] at behind
  exact behind exact

theorem plain_signed : ofPlain? n.text = readSigned n.negative n.magnitude := by
  obtain ⟨c, rest, digit, shape⟩ := n.magnitude_opens
  rw [Numeral.text]
  cases n.negative with
  | true => rfl
  | false =>
      rw [if_neg Bool.false_ne_true, shape]
      unfold ofPlain?
      split
      · rename_i same
        cases same
        cases digit
      · rename_i same
        cases same
        cases digit
      · rfl

theorem plain_value (m places : ℕ) (read : readWhole false 0 n.magnitude = some (m, places)) (fits : m < mantissaBound)
    (room : places ≤ maxScale) (same : m * 10 ^ n.fraction.length = n.count * 10 ^ places) :
    ∃ r, ofPlain? n.text = some r ∧ r.mantissa = m ∧ r.scale = places ∧ r.negative = (n.negative && m != 0) ∧
      r.value = n.value := by
  refine ⟨⟨n.negative && m != 0, m, places, fits, room⟩, ?_, rfl, rfl, rfl, ?_⟩
  · rw [plain_signed, readSigned, read]
    exact dif_pos ⟨fits, room⟩
  · have ratio : (m : ℚ) / 10 ^ places = n.count / 10 ^ n.fraction.length := by
      rw [div_eq_div_iff (by positivity) (by positivity)]
      exact_mod_cast same
    have sign : (Decimal.mk (n.negative && m != 0) m places fits room).signed = if n.negative then -(m : ℤ) else m := by
      by_cases none : m = 0
      · simp [signed, none]
      · simp [signed, none]
    rw [value, Numeral.value, Numeral.signed, sign]
    cases n.negative with
    | false => exact ratio
    | true =>
        simp only [if_true, Int.cast_neg, Int.cast_natCast, neg_div]
        rw [ratio]

theorem numeral_kept (fits : n.count < mantissaBound) (room : n.fraction.length ≤ maxScale) :
    ∃ r, ofPlain? n.text = some r ∧ r.mantissa = n.count ∧ r.scale = n.fraction.length ∧
      r.negative = (n.negative && n.count != 0) ∧ r.value = n.value :=
  plain_value n _ _ (magnitude_digits n fits room) fits room rfl

theorem numeral_abs : |n.value| = n.count / 10 ^ n.fraction.length := by
  have positive : (0 : ℚ) < 10 ^ n.fraction.length := by positivity
  rw [Numeral.value, abs_div, abs_of_pos positive]
  cases sign : n.negative <;> simp [Numeral.signed, sign]

theorem numeral_read (d : Decimal) (held : n.value = d.value) : ∃ r, ofPlain? n.text = some r ∧ r.value = n.value := by
  have exact : n.count * 10 ^ d.scale = d.mantissa * 10 ^ n.fraction.length := by
    have absolute : |n.value| = |d.value| := by rw [held]
    rw [numeral_abs, abs_value, div_eq_div_iff (by positivity) (by positivity)] at absolute
    exact_mod_cast absolute
  obtain ⟨m, places, read, fits, room, same⟩ := magnitude_exact n d.mantissa d.scale d.mantissa_lt d.scale_le exact
  obtain ⟨r, plain, _, _, _, value⟩ := plain_value n m places read fits room same
  exact ⟨r, plain, value⟩

end Numerals

end Decimal

namespace Amount

theorem parse_between (before after : Blanks) (text : List Char) (d : Decimal) (some : text ≠ [])
    (plain : ∀ c ∈ text, isBlank c = false) (read : Decimal.ofText? text = .some d) :
    parse (before.text ++ String.ofList text ++ after.text) = .ok d := by
  have characters : (before.text ++ String.ofList text ++ after.text).toList =
      before.text.toList ++ text ++ after.text.toList := by
    rw [String.toList_append, String.toList_append, String.toList_ofList]
  have filled : text.isEmpty = false := by simpa using some
  simp only [parse, characters, trim_between before after text some plain, filled, read, Bool.false_eq_true, if_false]

theorem parse_numeral (before after : Blanks) (n : Numeral) (d : Decimal) (read : Decimal.ofPlain? n.text = .some d) :
    parse (before.text ++ String.ofList n.text ++ after.text) = .ok d := by
  apply parse_between before after n.text d n.text_some n.text_plain
  rw [Decimal.ofText?, read]
  rfl

end Amount

end DoubleEntry
