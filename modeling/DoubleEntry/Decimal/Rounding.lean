import DoubleEntry.Decimal.Basic

/-!
Rounding. `roundHalfUp` is a quotient to the nearest whole number, a half going up; `roundHalfEven`
sends a half to the even neighbour. `roundTo` keeps at most the given number of fractional digits, a
half going away from zero; `rescale` then widens a decimal towards a scale as far as its mantissa allows.
-/

set_option autoImplicit false

namespace DoubleEntry

def roundHalfUp (n d : Nat) : Nat := (2 * n + d) / (2 * d)

def roundHalfEven (n d : Nat) : Nat :=
  let q := n / d
  let twice := 2 * (n % d)
  if twice > d || (twice == d && q % 2 == 1) then q + 1 else q

theorem half_up_lt (n p bound : Nat) (positive : 0 < p) (below : n < bound) : roundHalfUp n p < bound := by
  have large : p * 2 * (n + 1) ≤ p * 2 * bound := Nat.mul_le_mul_left _ below
  have grown : n * 2 ≤ p * 2 * n := by
    rw [Nat.mul_comm n 2, Nat.mul_comm p 2, Nat.mul_assoc]
    exact Nat.mul_le_mul_left 2 (Nat.le_mul_of_pos_left n positive)
  unfold roundHalfUp
  refine Nat.div_lt_of_lt_mul ?_
  rw [Nat.mul_comm 2 p, Nat.mul_comm 2 n]
  rw [Nat.mul_add] at large
  omega

namespace Decimal

-- Fractional digits past `places` are rounded off, a half away from zero. A zero that results from
-- rounding has no sign.
def roundTo (places : Nat) (d : Decimal) : Decimal :=
  if finer : places < d.scale then
    let mantissa := roundHalfUp d.mantissa (tenTo (d.scale - places))
    { negative := d.negative && mantissa != 0
      mantissa
      scale := places
      mantissa_lt := half_up_lt _ _ _ (ten_to_pos _) d.mantissa_lt
      scale_le := by have := d.scale_le; omega }
  else d

-- Up to `n` zeros are added after the last fractional digit, as many as the mantissa can hold.
def widen : Nat → Decimal → Decimal
  | 0, d => d
  | n + 1, d =>
    if room : d.mantissa * 10 < twoTo 96 ∧ d.scale + 1 ≤ 28 then
      widen n { d with mantissa := d.mantissa * 10, scale := d.scale + 1, mantissa_lt := room.1, scale_le := room.2 }
    else d

-- The scale is brought to `places`: by zeros at the end, or by rounding a half up in magnitude.
def rescale (places : Nat) (d : Decimal) : Decimal :=
  if finer : places < d.scale then
    { d with
      mantissa := roundHalfUp d.mantissa (tenTo (d.scale - places))
      scale := places
      mantissa_lt := half_up_lt _ _ _ (ten_to_pos _) d.mantissa_lt
      scale_le := by have := d.scale_le; omega }
  else widen (places - d.scale) d

def trimZeros : Nat → Nat → Nat → Nat × Nat
  | 0, mantissa, scale => (mantissa, scale)
  | n + 1, mantissa, scale =>
    if scale ≠ 0 ∧ mantissa % 10 = 0 then trimZeros n (mantissa / 10) (scale - 1)
    else (mantissa, scale)

theorem trim_zeros_le (n mantissa scale : Nat) :
    (trimZeros n mantissa scale).1 ≤ mantissa ∧ (trimZeros n mantissa scale).2 ≤ scale := by
  induction n generalizing mantissa scale with
  | zero => exact ⟨Nat.le_refl _, Nat.le_refl _⟩
  | succ n ih =>
    unfold trimZeros
    split
    · obtain ⟨smaller, shorter⟩ := ih (mantissa / 10) (scale - 1)
      exact ⟨Nat.le_trans smaller (Nat.div_le_self _ _), Nat.le_trans shorter (Nat.sub_le _ _)⟩
    · exact ⟨Nat.le_refl _, Nat.le_refl _⟩

-- Zeros at the end of the fraction are dropped; zero becomes plain `0`.
def normalize (d : Decimal) : Decimal :=
  if d.mantissa = 0 then zero
  else
    { d with
      mantissa := (trimZeros d.scale d.mantissa d.scale).1
      scale := (trimZeros d.scale d.mantissa d.scale).2
      mantissa_lt := Nat.lt_of_le_of_lt (trim_zeros_le _ _ _).1 d.mantissa_lt
      scale_le := Nat.le_trans (trim_zeros_le _ _ _).2 d.scale_le }

end Decimal
end DoubleEntry
