import DoubleEntry.Decimal.Rounding

/-!
Sums. The exact sum is taken at the wider of the two scales and kept if it fits 96 bits; otherwise
the fewest fractional digits are rounded off, a half going to the even neighbour. `none` means
that the whole part alone is too large.
-/

set_option autoImplicit false

namespace DoubleEntry.Decimal

-- The fewest digits rounded off so that a magnitude fits, starting with `dropped` of them.
def fit? (negative : Bool) (magnitude scale : Nat) : Nat → Nat → Option Decimal
  | 0, _ => none
  | fuel + 1, dropped =>
    if scale < dropped then none
    else
      let rounded := roundHalfEven magnitude (tenTo dropped)
      if magnitude / tenTo dropped < mantissaBound then
        if rounded < mantissaBound then of? negative rounded (scale - dropped)
        else if scale = dropped then none
        else of? negative (roundHalfEven rounded 10) (scale - dropped - 1)
      else fit? negative magnitude scale fuel (dropped + 1)

-- Both mantissas, and the one that is brought to the other's scale, are below 2³².
def isNarrow (a b : Decimal) : Bool :=
  let narrow := twoTo 32
  let gap := if a.scale ≤ b.scale then b.scale - a.scale else a.scale - b.scale
  let aligned := (if a.scale ≤ b.scale then a.mantissa else b.mantissa) * tenTo gap
  a.mantissa < narrow && b.mantissa < narrow && gap ≤ 9 && aligned < narrow

def add? (a b : Decimal) : Option Decimal :=
  if a.isZero then some b
  else if b.isZero then some a
  else
    let scale := max a.scale b.scale
    let sum := a.signed * tenTo (scale - a.scale) + b.signed * tenTo (scale - b.scale)
    let negative := if sum = 0 then a.negative && isNarrow a b else sum < 0
    fit? negative sum.natAbs scale (scale + 1) 0

def sub? (a b : Decimal) : Option Decimal :=
  add? a (if b.isZero then b else b.neg)

end DoubleEntry.Decimal
