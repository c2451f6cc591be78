import DoubleEntry.Decimal.Basic
import DoubleEntry.Text.Digits

/-!
The plain text of a decimal: every digit of its scale, and a minus sign wherever the sign is set.
-/

set_option autoImplicit false

namespace DoubleEntry.Decimal

open Text

def magnitudeText (mantissa scale : Nat) : List Char :=
  let all := padLeft (scale + 1) '0' (digits mantissa)
  let whole := all.take (all.length - scale)
  if scale = 0 then whole else whole ++ '.' :: all.drop (all.length - scale)

def text (d : Decimal) : List Char :=
  if d.negative then '-' :: magnitudeText d.mantissa d.scale else magnitudeText d.mantissa d.scale

def toText (d : Decimal) : String := String.ofList d.text

instance : ToString Decimal := ⟨toText⟩

end DoubleEntry.Decimal
