import DoubleEntry.Text.Blank
import DoubleEntry.Text.Digits
import DoubleEntry.Text.Utf8
import Mathlib

/-!
Digits in texts. The digits of a number are plain characters, and read as a number they are that number again.
-/

set_option autoImplicit false

namespace DoubleEntry.Text

theorem digit_range (c : Char) (digit : c.isDigit = true) : 48 ≤ c.toNat ∧ c.toNat ≤ 57 := by
  simp only [Char.isDigit, ge_iff_le, Bool.and_eq_true, decide_eq_true_eq, UInt32.le_iff_toNat_le] at digit
  exact digit

theorem digit_value_lt (c : Char) (digit : c.isDigit = true) : digitValue c < 10 := by
  have range := digit_range c digit
  change c.toNat - 48 < 10
  omega

theorem digit_not_blank (c : Char) (digit : c.isDigit = true) : isBlank c = false := by
  have range := digit_range c digit
  have apart : ∀ n ∈ blankCodes, ¬ (48 ≤ n ∧ n ≤ 57) := by decide
  apply eq_false_of_ne_true
  intro blank
  exact apart c.toNat (by simpa [isBlank] using blank) range

-- A text of white space only.
structure Blanks where
  text : String
  blank : ∀ c ∈ text.toList, isBlank c = true

def Blanks.none : Blanks := ⟨"", by simp⟩

theorem drop_blanks (blanks inner rest : List Char) (blank : ∀ c ∈ blanks, isBlank c = true) (some : inner ≠ [])
    (plain : ∀ c ∈ inner, isBlank c = false) : dropBlanks (blanks ++ (inner ++ rest)) = inner ++ rest := by
  obtain ⟨c, inner, rfl⟩ := List.exists_cons_of_ne_nil some
  rw [dropBlanks, List.dropWhile_append_of_pos blank, List.cons_append]
  exact List.dropWhile_cons_of_neg (by simp [plain c List.mem_cons_self])

theorem trim_between (before after : Blanks) (text : List Char) (some : text ≠ [])
    (plain : ∀ c ∈ text, isBlank c = false) :
    trimBlanks (before.text.toList ++ text ++ after.text.toList) = text := by
  have reversed := drop_blanks after.text.toList.reverse text.reverse []
    (fun c member => after.blank c (List.mem_reverse.mp member)) (by simpa using some)
    (fun c member => plain c (List.mem_reverse.mp member))
  rw [List.append_nil] at reversed
  rw [trimBlanks, List.append_assoc, drop_blanks _ text _ before.blank some plain, List.reverse_append, reversed,
    List.reverse_reverse]

theorem digits_digit (n : Nat) : ∀ c ∈ digits n, c.isDigit = true := fun _ member =>
  Nat.isDigit_of_mem_toDigits (by decide) (by decide) member

theorem digit_chars_cons (c : Char) (text : List Char) (n : Nat) :
    Nat.ofDigitChars 10 (c :: text) n = Nat.ofDigitChars 10 text (n * 10 + digitValue c) := by
  rw [Nat.ofDigitChars_cons, Nat.mul_comm]
  rfl

theorem digit_chars_grow (text : List Char) (n : Nat) : n ≤ Nat.ofDigitChars 10 text n := by
  induction text generalizing n with
  | nil => exact Nat.le_refl n
  | cons c rest ih =>
      rw [digit_chars_cons]
      exact Nat.le_trans (by omega) (ih _)

theorem digit_chars_between (text : List Char) (n : Nat) (digits : ∀ c ∈ text, c.isDigit = true) :
    n * 10 ^ text.length ≤ Nat.ofDigitChars 10 text n ∧ Nat.ofDigitChars 10 text n < (n + 1) * 10 ^ text.length := by
  induction text generalizing n with
  | nil => simp
  | cons c rest ih =>
      have small := digit_value_lt c (digits c List.mem_cons_self)
      obtain ⟨low, high⟩ := ih (n * 10 + digitValue c) (fun other member => digits other (List.mem_cons_of_mem _ member))
      rw [digit_chars_cons, List.length_cons, pow_succ']
      constructor
      · calc n * (10 * 10 ^ rest.length) = n * 10 * 10 ^ rest.length := by ring
          _ ≤ (n * 10 + digitValue c) * 10 ^ rest.length := Nat.mul_le_mul_right _ (by omega)
          _ ≤ _ := low
      · calc Nat.ofDigitChars 10 rest (n * 10 + digitValue c) < (n * 10 + digitValue c + 1) * 10 ^ rest.length := high
          _ ≤ (n + 1) * 10 * 10 ^ rest.length := Nat.mul_le_mul_right _ (by omega)
          _ = (n + 1) * (10 * 10 ^ rest.length) := by ring

theorem nat_of_digits (text : List Char) (n : Nat) :
    text.foldl (fun value c => value * 10 + digitValue c) n = Nat.ofDigitChars 10 text n := by
  induction text generalizing n with
  | nil => rfl
  | cons c rest ih => rw [List.foldl_cons, ih, digit_chars_cons]

theorem nat_digits (n : Nat) : nat? (digits n) = some n := by
  have some : (digits n).isEmpty = false := by
    simp [digits, Nat.toDigits_ne_nil]
  have all : (digits n).all Char.isDigit = true := List.all_eq_true.mpr (digits_digit n)
  have value : natOfDigits (digits n) = n := (nat_of_digits (digits n) 0).trans Nat.ofDigitChars_ten_toDigits
  simp [nat?, some, all, value]

theorem int_digits (n : Nat) : int? (digits n) = some (n : Int) := by
  have value := nat_digits n
  have digit := digits_digit n
  generalize digits n = text at value digit
  cases text with
  | nil => cases value
  | cons c rest =>
      have own := digit c List.mem_cons_self
      have minus : c ≠ '-' := by
        rintro rfl
        cases own
      have plus : c ≠ '+' := by
        rintro rfl
        cases own
      simp [int?, value, minus, plus]

section Padded

variable (width n : Nat)

theorem padded_digit : ∀ c ∈ padLeft width '0' (digits n), c.isDigit = true := by
  intro c member
  rcases List.mem_append.mp member with zero | own
  · rw [List.eq_of_mem_replicate zero]
    rfl
  · exact digits_digit n c own

theorem padded_value : natOfDigits (padLeft width '0' (digits n)) = n := by
  rw [natOfDigits, nat_of_digits, padLeft, Nat.ofDigitChars_append, Nat.ofDigitChars_replicate_zero, Nat.mul_zero]
  exact Nat.ofDigitChars_ten_toDigits

theorem padded_length (some : 0 < width) (fits : n < 10 ^ width) : (padLeft width '0' (digits n)).length = width := by
  have short : (digits n).length ≤ width := (Nat.length_toDigits_le_iff (by decide) some).mpr fits
  rw [padLeft, List.length_append, List.length_replicate]
  omega

end Padded

theorem encode_chars (s : String) : encode s = s.toList.flatMap String.utf8EncodeChar := by
  rw [encode]
  change s.toByteArray.data.toList = _
  rw [← String.utf8Encode_toList, List.utf8Encode]
  simp

@[simp] theorem encode_append (a b : String) : encode (a ++ b) = encode a ++ encode b := by
  rw [encode_chars, encode_chars, encode_chars, String.toList_append, List.flatMap_append]

end DoubleEntry.Text
