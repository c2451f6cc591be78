import DoubleEntry.Power

/-!
Decimal numbers: a sign, a mantissa of 96 bits and a scale from 0 to 28. Two decimals may differ in
sign of zero or in scale and still be the same number, so order and equality of numbers go through
`units`, the number counted in steps of 10⁻²⁸.
-/

set_option autoImplicit false

namespace DoubleEntry

structure Decimal where
  negative : Bool
  mantissa : Nat
  scale : Nat
  mantissa_lt : mantissa < twoTo 96
  scale_le : scale ≤ 28
deriving DecidableEq

namespace Decimal

def maxScale : Nat := 28
def mantissaBound : Nat := twoTo 96

def ofWhole (n : Nat) (fits : n < twoTo 96) : Decimal := ⟨false, n, 0, fits, Nat.zero_le _⟩

def zero : Decimal := ofWhole 0 (two_to_pos 96)

instance : Inhabited Decimal := ⟨zero⟩

def of? (negative : Bool) (mantissa scale : Nat) : Option Decimal :=
  if fits : mantissa < twoTo 96 ∧ scale ≤ 28 then some ⟨negative, mantissa, scale, fits.1, fits.2⟩ else none

-- As `of?`, with no sign on zero.
def ofSigned? (negative : Bool) (mantissa scale : Nat) : Option Decimal :=
  of? (negative && mantissa != 0) mantissa scale

def isZero (d : Decimal) : Bool := d.mantissa == 0

def signed (d : Decimal) : Int := if d.negative then -(d.mantissa : Int) else d.mantissa

def units (d : Decimal) : Int := d.signed * tenTo (maxScale - d.scale)

def numEq (a b : Decimal) : Bool := a.units == b.units
def numLt (a b : Decimal) : Bool := a.units < b.units
def numLe (a b : Decimal) : Bool := a.units ≤ b.units

def neg (d : Decimal) : Decimal := { d with negative := !d.negative }

def abs (d : Decimal) : Decimal := { d with negative := false }

@[simp] theorem neg_neg (d : Decimal) : d.neg.neg = d := by simp [neg]

@[simp] theorem signed_neg (d : Decimal) : d.neg.signed = -d.signed := by
  cases sign : d.negative <;> simp [signed, neg, sign]

end Decimal
end DoubleEntry
