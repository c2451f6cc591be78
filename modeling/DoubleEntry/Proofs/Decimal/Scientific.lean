import DoubleEntry.Proofs.Decimal.Text

/-!
Scientific notation. A plain numeral with an exponent behind it is no plain numeral, so that the second of the two readers
takes it: it reads the numeral and then moves the point, or fills up with zeros. Neither changes a digit as long as a decimal
can hold the number that is meant.
-/

set_option autoImplicit false

namespace DoubleEntry

open Text

namespace Text

theorem nat_chars (text : List Char) (n : ℕ) (written : nat? text = some n) : ∀ c ∈ text, c.isDigit = true := by
  rw [nat?] at written
  split at written
  · rename_i digits
    exact List.all_eq_true.mp (Bool.and_eq_true_iff.mp digits).2
  · cases written

theorem int_forms (text : List Char) (k : ℤ) (written : int? text = some k) :
    (∃ rest, ∃ n : ℕ, text = '-' :: rest ∧ nat? rest = some n ∧ k = -(n : ℤ)) ∨
      ∃ rest, ∃ n : ℕ, (text = '+' :: rest ∨ text = rest ∧ (∀ c ∈ text, c ≠ '-')) ∧ nat? rest = some n ∧ k = n := by
  unfold int? at written
  split at written
  · rename_i rest
    cases digits : nat? rest with
    | none =>
        rw [digits] at written
        cases written
    | some n =>
        rw [digits] at written
        cases written
        exact .inl ⟨rest, n, rfl, digits, rfl⟩
  · obtain ⟨n, digits, rfl⟩ := Option.map_eq_some_iff.mp written
    exact .inr ⟨_, n, .inl rfl, digits, rfl⟩
  · obtain ⟨n, digits, rfl⟩ := Option.map_eq_some_iff.mp written
    refine .inr ⟨_, n, .inr ⟨rfl, ?_⟩, digits, rfl⟩
    rintro c member rfl
    cases nat_chars _ n digits _ member

theorem int_plain (text : List Char) (k : ℤ) (written : int? text = some k) : ∀ c ∈ text, isBlank c = false := by
  have digits : ∀ rest n, nat? rest = some n → ∀ c ∈ rest, isBlank c = false :=
    fun rest n own c member => digit_not_blank c (nat_chars rest n own c member)
  rcases int_forms text k written with ⟨rest, n, rfl, own, _⟩ | ⟨rest, n, rfl | ⟨rfl, _⟩, own, _⟩
  · intro c member
    rcases List.mem_cons.mp member with rfl | behind
    · decide
    · exact digits rest n own c behind
  · intro c member
    rcases List.mem_cons.mp member with rfl | behind
    · decide
    · exact digits rest n own c behind
  · exact digits _ n own

end Text

namespace Decimal

-- No plain numeral has an exponent mark in it.
section Refused

variable {mark : Char} (isMark : isExponentMark mark = true)

include isMark in
theorem mark_forms : mark = 'e' ∨ mark = 'E' := by
  simpa [isExponentMark] using isMark

include isMark in
theorem mark_apart : mark.isDigit = false ∧ isFiller mark = false ∧ isBlank mark = false ∧
    mark ≠ '.' ∧ mark ≠ '_' ∧ mark ≠ '-' ∧ mark ≠ '+' := by
  rcases mark_forms isMark with rfl | rfl <;> decide

include isMark in
theorem rest_refused (mantissa scale : ℕ) (text : List Char) (among : mark ∈ text) :
    roundRest mantissa scale text = none := by
  have other : ¬text.all isFiller = true := by
    intro all
    have own := List.all_eq_true.mp all mark among
    rw [(mark_apart isMark).2.1] at own
    cases own
  rw [roundRest, if_neg other]

include isMark in
theorem fraction_refused (seen : Bool) (mantissa scale : ℕ) (text : List Char) (among : mark ∈ text) :
    readFraction seen mantissa scale text = none := by
  obtain ⟨digitless, _, _, _, line, _, _⟩ := mark_apart isMark
  induction text generalizing seen mantissa scale with
  | nil => cases among
  | cons c rest ih =>
      rw [readFraction]
      by_cases full : maxScale ≤ scale
      · rw [if_pos full]
        exact rest_refused isMark _ _ _ among
      · rw [if_neg full]
        by_cases digit : c.isDigit = true
        · have behind : mark ∈ rest := (List.mem_cons.mp among).resolve_left (by rintro rfl; simp [digitless] at digit)
          rw [if_pos digit]
          simp only [ih true _ _ behind, rest_refused isMark _ _ _ among, ite_self]
        · rw [if_neg digit]
          by_cases filler : (c == '_' && seen) = true
          · have behind : mark ∈ rest := (List.mem_cons.mp among).resolve_left (by rintro rfl; simp [line] at filler)
            rw [if_pos filler]
            exact ih _ _ _ behind
          · rw [if_neg filler]

include isMark in
theorem whole_refused (seen : Bool) (mantissa : ℕ) (text : List Char) (among : mark ∈ text) :
    readWhole seen mantissa text = none := by
  obtain ⟨digitless, _, _, point, line, _, _⟩ := mark_apart isMark
  induction text generalizing seen mantissa with
  | nil => cases among
  | cons c rest ih =>
      rw [readWhole]
      by_cases digit : c.isDigit = true
      · have behind : mark ∈ rest := (List.mem_cons.mp among).resolve_left (by rintro rfl; simp [digitless] at digit)
        rw [if_pos digit]
        simp only [ih true _ behind, ite_self]
      · rw [if_neg digit]
        by_cases dot : (c == '.') = true
        · have behind : mark ∈ rest := (List.mem_cons.mp among).resolve_left (by rintro rfl; simp [point] at dot)
          rw [if_pos dot]
          exact fraction_refused isMark _ _ _ _ behind
        · rw [if_neg dot]
          by_cases filler : (c == '_' && seen) = true
          · have behind : mark ∈ rest := (List.mem_cons.mp among).resolve_left (by rintro rfl; simp [line] at filler)
            rw [if_pos filler]
            exact ih _ _ behind
          · rw [if_neg filler]

include isMark in
theorem plain_refused (text : List Char) (among : mark ∈ text) : ofPlain? text = none := by
  obtain ⟨_, _, _, _, _, minus, plus⟩ := mark_apart isMark
  unfold ofPlain?
  split
  · rw [readSigned, whole_refused isMark _ _ _ ((List.mem_cons.mp among).resolve_left minus)]
    rfl
  · rw [readSigned, whole_refused isMark _ _ _ ((List.mem_cons.mp among).resolve_left plus)]
    rfl
  · rw [readSigned, whole_refused isMark _ _ _ among]
    rfl

end Refused

section Shifting

variable (base : Decimal)

theorem of_ratio (mantissa scale : ℕ) (factor : ℚ) (fits : mantissa < mantissaBound) (room : scale ≤ maxScale)
    (ratio : (mantissa : ℚ) / 10 ^ scale = base.mantissa / 10 ^ base.scale * factor) :
    ∃ r, of? base.negative mantissa scale = some r ∧ r.value = base.value * factor := by
  refine ⟨⟨base.negative, mantissa, scale, fits, room⟩, dif_pos ⟨fits, room⟩, ?_⟩
  cases sign : base.negative with
  | false => simpa [value, signed, sign] using ratio
  | true => simpa [value, signed, sign, neg_div] using ratio

theorem shift_down (places : ℕ) (room : base.scale + places ≤ maxScale) :
    ∃ r, shiftDown base places = some r ∧ r.value = base.value * 10 ^ (-(places : ℤ)) := by
  rw [shiftDown, if_pos room]
  apply of_ratio base _ _ _ base.mantissa_lt room
  rw [pow_add, zpow_neg, zpow_natCast]
  field_simp

-- It moves to the right over the fraction, and what is left of the way is filled up with zeros.
theorem shift_up (d : Decimal) (places : ℕ) (held : d.value = base.value * 10 ^ places) :
    ∃ r, shiftUp base places = some r ∧ r.value = base.value * 10 ^ places := by
  have short := base.scale_le
  rw [shiftUp]
  by_cases inside : places ≤ base.scale
  · rw [if_pos inside]
    apply of_ratio base _ _ _ base.mantissa_lt (Nat.le_trans (Nat.sub_le _ _) short)
    obtain ⟨rest, split⟩ := Nat.exists_eq_add_of_le inside
    rw [split, Nat.add_sub_cancel_left, pow_add]
    field_simp
  · rw [if_neg inside]
    obtain ⟨zeros, split⟩ := Nat.exists_eq_add_of_le (Nat.le_of_not_le inside)
    have filled : tenTo (places - base.scale) = 10 ^ zeros := by
      rw [split, Nat.add_sub_cancel_left]
      rfl
    rw [filled]
    have ratio : ((base.mantissa * 10 ^ zeros : ℕ) : ℚ) / 10 ^ 0 = base.mantissa / 10 ^ base.scale * 10 ^ places := by
      rw [split, pow_add]
      push_cast
      field_simp
    have fits : base.mantissa * 10 ^ zeros < mantissaBound := by
      have absolute : |d.value| = |base.value| * 10 ^ places := by
        rw [held, abs_mul, abs_of_pos (by positivity : (0 : ℚ) < 10 ^ places)]
      rw [abs_value, abs_value, ← ratio, pow_zero, div_one, div_eq_iff (by positivity)] at absolute
      have whole : d.mantissa = base.mantissa * 10 ^ zeros * 10 ^ d.scale := by exact_mod_cast absolute
      have bound := d.mantissa_lt
      rw [whole] at bound
      exact Nat.lt_of_le_of_lt (Nat.le_mul_of_pos_right _ (by positivity)) bound
    exact of_ratio base _ _ _ fits (Nat.zero_le _) ratio

theorem exponent_digits (text : List Char) (n : ℕ) (written : nat? text = some n) (small : n ≤ maxScale) :
    exponent? text = some n ∧ exponent? ('+' :: text) = some n := by
  have kept : (nat? text).filter (· ≤ maxScale) = some n := by
    rw [written]
    simp [small]
  refine ⟨?_, kept⟩
  unfold exponent?
  split
  · cases nat_chars _ n written '+' List.mem_cons_self
  · exact kept

theorem shifted_exact (d : Decimal) (text : List Char) (k : ℤ) (written : int? text = some k) (low : -28 ≤ k) (high : k ≤ 28)
    (room : (base.scale : ℤ) - k ≤ 28) (held : d.value = base.value * 10 ^ k) :
    ∃ r, shifted base text = some r ∧ r.value = base.value * 10 ^ k := by
  rcases int_forms text k written with ⟨rest, n, rfl, digits, rfl⟩ | ⟨rest, n, form, digits, rfl⟩
  · obtain ⟨r, down, value⟩ := shift_down base n (by simp only [maxScale]; omega)
    refine ⟨r, ?_, value⟩
    rw [shifted, (exponent_digits rest n digits (by simp only [maxScale]; omega)).1]
    exact down
  · rw [zpow_natCast] at held ⊢
    obtain ⟨r, up, value⟩ := shift_up base d n held
    refine ⟨r, ?_, value⟩
    obtain ⟨plain, plus⟩ := exponent_digits rest n digits (by simp only [maxScale]; omega)
    rcases form with rfl | ⟨rfl, unsigned⟩
    · rw [shifted, plus]
      · exact up
      · rintro other same
        cases same
    · rw [shifted, plain]
      · exact up
      · rintro other rfl
        exact unsigned '-' List.mem_cons_self rfl

end Shifting

section Scientific

variable (n : Numeral) (mark : Char) (exponent : List Char) (isMark : isExponentMark mark = true)

include isMark in
theorem scientific_read (base : Decimal) (read : ofPlain? n.text = some base) :
    ofText? (n.text ++ mark :: exponent) = shifted base exponent := by
  have own : ∀ c ∈ n.text, (!isExponentMark c) = true := by
    intro c member
    rw [Bool.not_eq_true', ← Bool.not_eq_true]
    intro marked
    rcases n.text_chars c member with rfl | rfl | digit
    · cases marked
    · cases marked
    · rw [(mark_apart marked).1] at digit
      cases digit
  have front : (n.text ++ mark :: exponent).takeWhile (fun c => !isExponentMark c) = n.text := by
    rw [List.takeWhile_append_of_pos own, List.takeWhile_cons_of_neg (by simp [isMark]), List.append_nil]
  have back : (n.text ++ mark :: exponent).dropWhile (fun c => !isExponentMark c) = mark :: exponent := by
    rw [List.dropWhile_append_of_pos own, List.dropWhile_cons_of_neg (by simp [isMark])]
  rw [ofText?, plain_refused isMark _ (by simp), Option.orElse_none, ofScientific?, front, back, read]
  rfl

include isMark in
theorem scientific_plain (k : ℤ) (written : int? exponent = some k) :
    ∀ c ∈ n.text ++ mark :: exponent, isBlank c = false := by
  intro c member
  rcases List.mem_append.mp member with before | behind
  · exact n.text_plain c before
  · rcases List.mem_cons.mp behind with rfl | after
    · exact (mark_apart isMark).2.2.1
    · exact int_plain exponent k written c after

end Scientific

end Decimal

-- A numeral whose digits fit, an exponent, and the number they mean held by some decimal.
structure Numeral.Shifts (n : Numeral) (k : ℤ) : Prop where
  least : -28 ≤ k
  most : k ≤ 28
  places : n.fraction.length ≤ 28
  room : (n.fraction.length : ℤ) - k ≤ 28
  digits : n.count < twoTo 96
  held : ∃ d : Decimal, d.value = n.value * 10 ^ k

namespace Amount

/-- Scientific notation means what it says. With any blanks around it, a plain numeral is read as its number, and with an
exponent behind it as that number times the power of ten, without any rounding; so is every way to write the product as a
plain numeral, and there is one. -/
theorem scientific_exact (n : Numeral) (k : ℤ) (mark : Char) (exponent : List Char) (before after : Blanks)
    (shifts : n.Shifts k) (isMark : mark = 'e' ∨ mark = 'E') (written : int? exponent = some k) :
    (∃ base, parse (before.text ++ String.ofList n.text ++ after.text) = .ok base ∧ base.value = n.value) ∧
      ∃ r, parse (before.text ++ String.ofList (n.text ++ mark :: exponent) ++ after.text) = .ok r ∧
        r.value = n.value * 10 ^ k ∧ (∃ m : Numeral, m.value = n.value * 10 ^ k) ∧
        ∀ m : Numeral, m.value = n.value * 10 ^ k →
          ∃ same, parse (before.text ++ String.ofList m.text ++ after.text) = .ok same ∧ same.numEq r = true := by
  obtain ⟨d, held⟩ := shifts.held
  have marked : Decimal.isExponentMark mark = true := by
    rcases isMark with rfl | rfl <;> rfl
  obtain ⟨base, read, _, scale, _, value⟩ := Decimal.numeral_kept n shifts.digits shifts.places
  have room := shifts.room
  rw [← scale] at room
  obtain ⟨r, shifted, exactly⟩ := Decimal.shifted_exact base d exponent k written shifts.least shifts.most room
    (by rw [held, value])
  rw [value] at exactly
  have parsed := parse_between before after (n.text ++ mark :: exponent) r (by simp)
    (Decimal.scientific_plain n mark exponent marked k written)
    ((Decimal.scientific_read n mark exponent marked base read).trans shifted)
  refine ⟨⟨base, parse_numeral before after n base read, value⟩, r, parsed, exactly,
    ⟨d.printed, (Decimal.printed_value d).trans held⟩, fun m meant => ?_⟩
  obtain ⟨same, plain, own⟩ := Decimal.numeral_read m d (meant.trans held.symm)
  exact ⟨same, parse_numeral before after m same plain, (Decimal.num_eq same r).mpr (by rw [own, meant, exactly])⟩

-- So many digits that just two zeros fit behind them.
def widest : Decimal := ⟨true, 792281625142643375935439503, 26, by decide, by decide⟩

theorem scientific_exact_widest : widest.printed.Shifts 28 ∧ ∃ r,
    parse (" " ++ String.ofList (widest.printed.text ++ ['E', '+', '2', '8']) ++ "\t") = .ok r ∧
      r.value = -79228162514264337593543950300 := by
  have value : widest.printed.value * 10 ^ (28 : ℤ) = -79228162514264337593543950300 := by
    rw [Decimal.printed_value]
    norm_num [widest, Decimal.value, Decimal.signed]
  have places := Decimal.printed_places widest
  have shifts : widest.printed.Shifts 28 := by
    have digits : widest.printed.count < twoTo 96 := by
      rw [Decimal.printed_count]
      exact widest.mantissa_lt
    refine ⟨by decide, by decide, by rw [places]; decide, by rw [places]; decide, digits,
      ⟨true, 79228162514264337593543950300, 0, by decide, by decide⟩, ?_⟩
    rw [value]
    norm_num [Decimal.value, Decimal.signed]
  obtain ⟨_, r, read, exactly, _⟩ := scientific_exact widest.printed 28 'E' ['+', '2', '8'] ⟨" ", by simp; decide⟩
    ⟨"\t", by simp; decide⟩ shifts (.inr rfl) (by decide)
  exact ⟨shifts, r, read, exactly.trans value⟩

end Amount

end DoubleEntry
