import DoubleEntry.Json.Reader
import DoubleEntry.Json.Writer
import DoubleEntry.Proofs.Text.Digits

/-!
Texts and whole numbers, written as JSON and read back. A reader takes a value that was written off the front of what is
ahead of it.
-/

set_option autoImplicit false

namespace DoubleEntry.Json

open Text (Bytes encode)

-- What may follow a value that was written.
def Breaks (rest : Bytes) : Prop :=
  ∀ b, rest.head? = some b → b = byte ',' ∨ b = byte ']' ∨ b = byte '\x7d'

/-- The text of a value, which a reader takes off the front of what is ahead, wherever it stands. -/
def Takes {α : Type} (read : Reader α) (text : String) (value : α) : Prop :=
  ∀ rest index, Breaks rest → read ⟨encode text ++ rest, index⟩ = .ok (value, ⟨rest, index + (encode text).length⟩)

-- The text begins as no closing bracket, blank or null does.
def Opens (text : String) : Prop :=
  ∃ b rest, encode text = b :: rest ∧ isBlank b = false ∧ b ≠ byte ']' ∧ b ≠ byte 'n'

theorem solid_ahead (b : UInt8) (rest : Bytes) (index : Nat) (solid : isBlank b = false) :
    (Cursor.mk (b :: rest) index).skipBlanks = ⟨b :: rest, index⟩ := by
  simp [Cursor.skipBlanks, Cursor.skipWhile, Cursor.skipWhileFrom, solid]

theorem next_ahead (b : UInt8) (rest : Bytes) (index : Nat) : (Cursor.mk (b :: rest) index).next = ⟨rest, index + 1⟩ :=
  rfl

theorem at_value {α : Type} (read : UInt8 → Reader α) (b : UInt8) (rest : Bytes) (index : Nat)
    (solid : isBlank b = false) : atValue read ⟨b :: rest, index⟩ = read b ⟨b :: rest, index⟩ := by
  rw [atValue, solid_ahead b rest index solid]
  rfl

section Texts

variable (read rest : Bytes) (index : Nat)

theorem plain_byte (b : UInt8) (quote : b ≠ byte '"') (slash : b ≠ byte '\\') (visible : ¬ b < 32) :
    readBytesFrom .plain read (b :: rest) index = readBytesFrom .plain (b :: read) rest (index + 1) := by
  rw [readBytesFrom]
  simp [quote, slash, visible]

theorem plain_bytes (bytes : Bytes) (plain : ∀ b ∈ bytes, b ≠ byte '"' ∧ b ≠ byte '\\' ∧ ¬ b < 32) :
    readBytesFrom .plain read (bytes ++ rest) index =
      readBytesFrom .plain (bytes.reverse ++ read) rest (index + bytes.length) := by
  induction bytes generalizing read index with
  | nil => rfl
  | cons b bytes ih =>
      obtain ⟨quote, slash, visible⟩ := plain b List.mem_cons_self
      rw [List.cons_append, plain_byte read _ index b quote slash visible,
        ih _ _ fun other member => plain other (List.mem_cons_of_mem _ member), List.reverse_cons, List.append_assoc,
        List.length_cons, Nat.add_assoc, Nat.add_comm 1]
      rfl

theorem control_read (n : Nat) (low : n < 32) :
    readBytesFrom .plain read ((escape (Char.ofNat n)).flatMap String.utf8EncodeChar ++ rest) index =
      readBytesFrom .plain ((String.utf8EncodeChar (Char.ofNat n)).reverse ++ read) rest
        (index + ((escape (Char.ofNat n)).flatMap String.utf8EncodeChar).length) := by
  interval_cases n <;> rfl

theorem char_plain (c : Char) (quote : c ≠ '"') (slash : c ≠ '\\') (visible : 32 ≤ c.toNat) :
    ∀ b ∈ String.utf8EncodeChar c, b ≠ byte '"' ∧ b ≠ byte '\\' ∧ ¬ b < 32 := by
  have apart : ∀ d : Char, c ≠ d → c.toNat ≠ d.toNat := fun d other same => other (Char.toNat_inj.mp same)
  have notQuote : c.toNat ≠ 34 := apart '"' quote
  have notSlash : c.toNat ≠ 92 := apart '\\' slash
  have limits : ∀ b : UInt8, b.toNat ≠ 34 → b.toNat ≠ 92 → 32 ≤ b.toNat → b ≠ byte '"' ∧ b ≠ byte '\\' ∧ ¬ b < 32 := by
    intro b first second third
    refine ⟨?_, ?_, ?_⟩
    · rintro rfl
      exact first rfl
    · rintro rfl
      exact second rfl
    · rw [UInt8.lt_iff_toNat_lt]
      exact Nat.not_lt.mpr third
  have high : ∀ n, 128 ≤ n → n < 256 → UInt8.ofNat n ≠ byte '"' ∧ UInt8.ofNat n ≠ byte '\\' ∧ ¬ UInt8.ofNat n < 32 := by
    intro n low up
    have value : (UInt8.ofNat n).toNat = n := UInt8.toNat_ofNat_of_lt' up
    exact limits _ (by omega) (by omega) (by omega)
  intro b member
  unfold String.utf8EncodeChar at member
  have toNat : c.val.toNat = c.toNat := rfl
  simp only [toNat] at member
  split at member
  · rw [List.mem_singleton] at member
    subst member
    have value : (UInt8.ofNat c.toNat).toNat = c.toNat := UInt8.toNat_ofNat_of_lt' (by change _ < 256; omega)
    exact limits _ (by omega) (by omega) (by omega)
  · split at member
    · simp only [List.mem_cons, List.not_mem_nil, or_false] at member
      rcases member with rfl | rfl <;> exact high _ (by omega) (by omega)
    · split at member
      · simp only [List.mem_cons, List.not_mem_nil, or_false] at member
        rcases member with rfl | rfl | rfl <;> exact high _ (by omega) (by omega)
      · simp only [List.mem_cons, List.not_mem_nil, or_false] at member
        rcases member with rfl | rfl | rfl | rfl <;> exact high _ (by omega) (by omega)

theorem escape_read (c : Char) :
    readBytesFrom .plain read ((escape c).flatMap String.utf8EncodeChar ++ rest) index =
      readBytesFrom .plain ((String.utf8EncodeChar c).reverse ++ read) rest
        (index + ((escape c).flatMap String.utf8EncodeChar).length) := by
  by_cases control : c.toNat < 32
  · have same := control_read read rest index c.toNat control
    rwa [Char.ofNat_toNat] at same
  by_cases quote : c = '"'
  · subst quote
    rfl
  by_cases slash : c = '\\'
  · subst slash
    rfl
  have own : escape c = [c] := by
    unfold escape
    split
    · exact absurd rfl quote
    · exact absurd rfl slash
    · exact absurd (by decide) control
    · exact absurd (by decide) control
    · exact absurd (by decide) control
    · exact absurd (by decide) control
    · exact absurd (by decide) control
    · exact if_neg control
  have plain := char_plain c quote slash (Nat.le_of_not_lt control)
  rw [own, List.flatMap_singleton]
  exact plain_bytes read rest index _ plain

theorem chars_read (chars : List Char) :
    readBytesFrom .plain read ((chars.flatMap escape).flatMap String.utf8EncodeChar ++ byte '"' :: rest) index =
      .ok (read.reverse ++ chars.flatMap String.utf8EncodeChar,
        ⟨byte '"' :: rest, index + ((chars.flatMap escape).flatMap String.utf8EncodeChar).length⟩) := by
  induction chars generalizing read index with
  | nil =>
      rw [List.flatMap_nil, List.flatMap_nil, List.nil_append, readBytesFrom]
      simp
  | cons c chars ih =>
      rw [List.flatMap_cons, List.flatMap_append, List.append_assoc, escape_read, ih]
      simp [Nat.add_assoc]

end Texts

theorem encode_text (s : String) : encode (textJson s) =
    byte '"' :: ((s.toList.flatMap escape).flatMap String.utf8EncodeChar ++ [byte '"']) := by
  rw [Text.encode_chars, textJson, String.toList_ofList, List.flatMap_append]
  rfl

theorem text_body (s : String) (rest : Bytes) (index : Nat) :
    readTextBody (Cursor.mk (encode (textJson s) ++ rest) index).next =
      .ok (s, ⟨rest, index + (encode (textJson s)).length⟩) := by
  have bytes : encode (textJson s) ++ rest =
      byte '"' :: ((s.toList.flatMap escape).flatMap String.utf8EncodeChar ++ byte '"' :: rest) := by
    rw [encode_text]
    simp
  rw [bytes, encode_text, readTextBody]
  simp only [Cursor.next, List.tail_cons, List.isEmpty_cons, Bool.false_eq_true, if_false]
  rw [chars_read]
  simp only [bind, Except.bind, List.reverse_nil, List.nil_append, ← Text.encode_chars, Text.decode_encode]
  simp
  omega

theorem text_opens (s : String) : Opens (textJson s) :=
  ⟨byte '"', _, encode_text s, by decide, by decide, by decide⟩

theorem text_as_takes (expected : String) (use : String → Cursor → Outcome Datum) (s : String) (value : Datum)
    (used : ∀ c, use s c = .ok value) : Takes (readTextAs expected use) (textJson s) value := by
  intro rest index _
  have body := text_body s rest index
  obtain ⟨more, bytes⟩ : ∃ more, encode (textJson s) ++ rest = byte '"' :: more :=
    ⟨_, by rw [encode_text]; rfl⟩
  rw [bytes] at body ⊢
  rw [readTextAs, at_value _ _ _ _ (by decide)]
  simp only [beq_self_eq_true, if_true, body, bind, Except.bind, used]
  rfl

theorem text_takes (s : String) : Takes readText (textJson s) (.text s) :=
  text_as_takes _ _ s _ fun _ => rfl

section Numbers

theorem digit_byte (c : Char) (digit : c.isDigit = true) :
    String.utf8EncodeChar c = [byte c] ∧ isDigit (byte c) = true ∧ digitOf (byte c) = Text.digitValue c ∧
      (c ≠ '0' → (byte c == byte '0') = false) := by
  have all : ∀ n < 58, (Char.ofNat n).isDigit = true →
      String.utf8EncodeChar (Char.ofNat n) = [byte (Char.ofNat n)] ∧ isDigit (byte (Char.ofNat n)) = true ∧
        digitOf (byte (Char.ofNat n)) = Text.digitValue (Char.ofNat n) ∧
        (Char.ofNat n ≠ '0' → (byte (Char.ofNat n) == byte '0') = false) := by
    decide
  have range : c.toNat < 58 := by
    simp only [Char.isDigit, ge_iff_le, Bool.and_eq_true, decide_eq_true_eq, UInt32.le_iff_toNat_le] at digit
    exact Nat.lt_succ_of_le digit.2
  have own := all c.toNat range
  rw [Char.ofNat_toNat] at own
  exact own digit

theorem digit_solid (b : UInt8) (digit : isDigit b = true) :
    isBlank b = false ∧ (b == byte '-') = false ∧ b ≠ byte ']' ∧ b ≠ byte 'n' := by
  have apart : ∀ other : UInt8, isDigit other = false → b ≠ other := by
    rintro other none rfl
    rw [none] at digit
    cases digit
  refine ⟨?_, beq_false_of_ne (apart _ rfl), apart _ rfl, apart _ rfl⟩
  simp [isBlank, apart 32 rfl, apart 10 rfl, apart 9 rfl, apart 13 rfl]

theorem digits_bytes (chars : List Char) (digits : ∀ c ∈ chars, c.isDigit = true) :
    chars.flatMap String.utf8EncodeChar = chars.map byte := by
  induction chars with
  | nil => rfl
  | cons c chars ih =>
      rw [List.flatMap_cons, (digit_byte c (digits c List.mem_cons_self)).1,
        ih fun other member => digits other (List.mem_cons_of_mem _ member)]
      rfl

theorem digits_head (n : Nat) (positive : 0 < n) : ∃ c rest, Text.digits n = c :: rest ∧ c ≠ '0' := by
  induction n using Nat.strong_induction_on with
  | _ n ih =>
      by_cases single : n < 10
      · refine ⟨n.digitChar, [], Nat.toDigits_of_lt_base single, ?_⟩
        interval_cases n <;> decide
      · obtain ⟨c, rest, shape, some⟩ := ih (n / 10) (by omega) (by omega)
        refine ⟨c, rest ++ [(n % 10).digitChar], ?_, some⟩
        rw [Text.digits, Nat.toDigits_of_base_le (by decide) (Nat.le_of_not_lt single)]
        exact congrArg (· ++ [(n % 10).digitChar]) shape

theorem digits_first (n : Nat) : ∃ b rest, (Text.digits n).map byte = b :: rest ∧ isDigit b = true := by
  have digit := Text.digits_digit n
  obtain ⟨c, rest, shape⟩ := List.exists_cons_of_ne_nil (Nat.toDigits_ne_nil (n := n) (b := 10))
  rw [Text.digits, shape] at digit ⊢
  exact ⟨byte c, rest.map byte, rfl, (digit_byte c (digit c List.mem_cons_self)).2.1⟩

variable (rest : Bytes) (index : Nat) (breaks : Breaks rest)

include breaks

theorem break_ends : (Cursor.mk rest index).aheadIsDigit = false ∧ (Cursor.mk rest index).aheadIs '.' = false ∧
    (Cursor.mk rest index).aheadIsExponent = false := by
  cases rest with
  | nil => exact ⟨rfl, rfl, rfl⟩
  | cons b rest =>
      rcases breaks b rfl with rfl | rfl | rfl <;> exact ⟨rfl, rfl, rfl⟩

theorem digits_taken (chars : List Char) (value count : Nat) (digits : ∀ c ∈ chars, c.isDigit = true)
    (fits : Nat.ofDigitChars 10 chars value < Number.wordBound) :
    Number.readDigitsFrom value count (chars.map byte ++ rest) index =
      (Nat.ofDigitChars 10 chars value, count + chars.length, ⟨rest, index + chars.length⟩) := by
  induction chars generalizing value count index with
  | nil =>
      have stops := (break_ends rest index breaks).1
      cases rest with
      | nil => rfl
      | cons b rest =>
          have other : isDigit b = false := stops
          simp [Number.readDigitsFrom, other]
  | cons c chars ih =>
      obtain ⟨_, digit, own, _⟩ := digit_byte c (digits c List.mem_cons_self)
      rw [Text.digit_chars_cons] at fits ⊢
      have narrow : value * 10 + Text.digitValue c < Number.wordBound :=
        Nat.lt_of_le_of_lt (Text.digit_chars_grow chars _) fits
      rw [List.map_cons, List.cons_append, Number.readDigitsFrom, digit, own, if_pos (by simp [narrow]),
        ih _ _ _ (fun other member => digits other (List.mem_cons_of_mem _ member)) fits, List.length_cons, Nat.add_assoc,
        Nat.add_assoc, Nat.add_comm 1]

theorem magnitude_taken (negative : Bool) (n : Nat) (fits : n < Number.wordBound) :
    Number.readMagnitude negative ⟨(Text.digits n).map byte ++ rest, index⟩ =
      .ok (Number.whole negative n, ⟨rest, index + (Text.digits n).length⟩) := by
  obtain ⟨noDigit, noPoint, noExponent⟩ := break_ends rest (index + (Text.digits n).length) breaks
  rcases Nat.eq_zero_or_pos n with rfl | positive
  · have zero : Text.digits 0 = ['0'] := Nat.toDigits_zero 10
    rw [zero] at noDigit noPoint noExponent ⊢
    simp only [List.map_cons, List.map_nil, List.singleton_append, List.length_singleton] at noDigit noPoint noExponent ⊢
    simp [Number.readMagnitude, Cursor.peek, Cursor.next, noDigit, noPoint, noExponent]
  · obtain ⟨c, chars, shape, some⟩ := digits_head n positive
    have digits := Text.digits_digit n
    have value : Nat.ofDigitChars 10 (Text.digits n) 0 = n := Nat.ofDigitChars_ten_toDigits
    rw [shape] at digits value noDigit noPoint noExponent ⊢
    rw [Text.digit_chars_cons, Nat.zero_mul, Nat.zero_add] at value
    obtain ⟨_, digit, own, notZero⟩ := digit_byte c (digits c List.mem_cons_self)
    have taken := digits_taken rest (index + 1) breaks chars (Text.digitValue c) 0
      (fun other member => digits other (List.mem_cons_of_mem _ member)) (by rwa [value])
    rw [value, Nat.add_assoc, Nat.add_comm 1] at taken
    simp only [List.length_cons] at noDigit noPoint noExponent ⊢
    simp [Number.readMagnitude, Cursor.peek, Cursor.next, Number.readDigits, digit, own, notZero some, taken, noDigit,
      noPoint, noExponent]

end Numbers

theorem encode_int (n : Int) : encode (intJson n) =
    (if n < 0 then [byte '-'] else []) ++ (Text.digits n.natAbs).map byte := by
  have magnitude : encode (toString n.natAbs) = (Text.digits n.natAbs).map byte := by
    rw [Text.encode_chars, ← digits_bytes _ (Text.digits_digit _)]
    exact congrArg (List.flatMap String.utf8EncodeChar) Nat.toList_repr
  rw [← magnitude]
  cases n with
  | ofNat n => rfl
  | negSucc n =>
      rw [if_pos (Int.negSucc_lt_zero n)]
      exact Text.encode_append "-" _

theorem int_first (n : Int) : ∃ b rest, encode (intJson n) = b :: rest ∧ (b == byte '-' || isDigit b) = true ∧
    isBlank b = false ∧ b ≠ byte ']' ∧ b ≠ byte 'n' := by
  rw [encode_int]
  by_cases negative : n < 0
  · rw [if_pos negative]
    exact ⟨byte '-', _, rfl, rfl, by decide, by decide, by decide⟩
  · obtain ⟨b, rest, bytes, digit⟩ := digits_first n.natAbs
    obtain ⟨solid, _, bracket, null⟩ := digit_solid b digit
    rw [if_neg negative, List.nil_append]
    exact ⟨b, rest, bytes, by rw [digit, Bool.or_true], solid, bracket, null⟩

theorem int_opens (n : Int) : Opens (intJson n) := by
  obtain ⟨b, rest, bytes, _, opens⟩ := int_first n
  exact ⟨b, rest, bytes, opens⟩

theorem int_number (n : Int) (rest : Bytes) (index : Nat) (breaks : Breaks rest) (fits : Text.isInt64 n = true) :
    Number.read ⟨encode (intJson n) ++ rest, index⟩ =
      .ok (.integer n, ⟨rest, index + (encode (intJson n)).length⟩) := by
  have bounds : -(twoTo 63 : Int) ≤ n ∧ n < twoTo 63 := by simpa [Text.isInt64] using fits
  have wide : n.natAbs < Number.wordBound := by
    have twice : Number.wordBound = 2 * twoTo 63 := by decide
    omega
  rw [encode_int]
  by_cases negative : n < 0
  · have taken := magnitude_taken rest (index + 1) breaks true n.natAbs wide
    have whole : Number.whole true n.natAbs = .integer n := by
      have some : n.natAbs ≠ 0 := by omega
      have within : ¬ twoTo 63 < n.natAbs := by omega
      simp only [Number.whole, Bool.not_true, Bool.false_eq_true, if_false, some, within, decide_false, Bool.or_self]
      exact congrArg Number.integer (by omega)
    rw [whole] at taken
    rw [if_pos negative, Number.read]
    simp only [List.cons_append, List.nil_append, Cursor.aheadIs, Cursor.peek, List.head?_cons, beq_self_eq_true, if_true,
      Cursor.next, List.tail_cons, List.isEmpty_cons, Bool.false_eq_true, if_false, taken, List.length_cons,
      List.length_map]
    rw [Nat.add_assoc, Nat.add_comm 1]
  · have taken := magnitude_taken rest index breaks false n.natAbs wide
    have whole : Number.whole false n.natAbs = .integer n := congrArg Number.integer (by omega)
    obtain ⟨b, more, bytes, digit⟩ := digits_first n.natAbs
    have ahead : (Cursor.mk ((Text.digits n.natAbs).map byte ++ rest) index).aheadIs '-' = false := by
      rw [bytes]
      exact (digit_solid b digit).2.1
    rw [whole] at taken
    rw [if_neg negative, List.nil_append, Number.read, ahead, if_neg Bool.false_ne_true, taken, List.length_map]

theorem int_takes (n : Int) (fits : Text.isInt64 n = true) : Takes readInt64 (intJson n) (.int n) := by
  intro rest index breaks
  have number := int_number n rest index breaks fits
  obtain ⟨b, more, bytes, signed, solid, _⟩ := int_first n
  rw [bytes] at number ⊢
  rw [List.cons_append] at number ⊢
  rw [readInt64, at_value _ _ _ _ solid, if_pos signed, number]
  simp only [bind, Except.bind, fits, if_true]

end DoubleEntry.Json
