import DoubleEntry.Decimal.Rounding
import DoubleEntry.Text.Digits

/-!
Decimals from text. Plain notation is a sign, digits with at most one point among them, and
underscores anywhere after the first digit. Fractional digits that a decimal cannot hold are rounded
off by the first of them; a whole part that does not fit is refused. Scientific notation is a plain
numeral, `e` or `E`, and an exponent of at most 28 either way.
-/

set_option autoImplicit false

namespace DoubleEntry.Decimal

open Text

def isFiller (c : Char) : Bool := c.isDigit || c == '_'

-- A mantissa with `digit` as the first digit that is left out. One that rounds up past 96 bits
-- gives up its last fractional digit.
def roundOff (mantissa scale digit : Nat) : Option (Nat × Nat) :=
  if digit < 5 then some (mantissa, scale)
  else if mantissa + 1 < mantissaBound then some (mantissa + 1, scale)
  else if scale = 0 then none
  else some ((mantissa + 5) / 10, scale - 1)

-- What follows the last digit that fits: the next digit decides the rounding, the rest is skipped.
def roundRest (mantissa scale : Nat) (rest : List Char) : Option (Nat × Nat) :=
  if rest.all isFiller then
    match rest.find? Char.isDigit with
    | none => some (mantissa, scale)
    | some c => roundOff mantissa scale (digitValue c)
  else none

def readFraction (seen : Bool) (mantissa scale : Nat) : List Char → Option (Nat × Nat)
  | [] => if seen then some (mantissa, scale) else none
  | c :: rest =>
    if maxScale ≤ scale then roundRest mantissa scale (c :: rest)
    else if c.isDigit then
      let wider := mantissa * 10 + digitValue c
      if wider < mantissaBound then readFraction true wider (scale + 1) rest
      else roundRest mantissa scale (c :: rest)
    else if c == '_' && seen then readFraction seen mantissa scale rest
    else none

def readWhole (seen : Bool) (mantissa : Nat) : List Char → Option (Nat × Nat)
  | [] => if seen then some (mantissa, 0) else none
  | c :: rest =>
    if c.isDigit then
      let wider := mantissa * 10 + digitValue c
      if wider < mantissaBound then readWhole true wider rest else none
    else if c == '.' then readFraction seen mantissa 0 rest
    else if c == '_' && seen then readWhole seen mantissa rest
    else none

def readSigned (negative : Bool) (text : List Char) : Option Decimal :=
  (readWhole false 0 text).bind fun (mantissa, scale) => ofSigned? negative mantissa scale

def ofPlain? : List Char → Option Decimal
  | '-' :: rest => readSigned true rest
  | '+' :: rest => readSigned false rest
  | text => readSigned false text

def exponent? : List Char → Option Nat
  | '+' :: rest => (nat? rest).filter (· ≤ maxScale)
  | text => (nat? text).filter (· ≤ maxScale)

def shiftDown (base : Decimal) (places : Nat) : Option Decimal :=
  if base.scale + places ≤ maxScale then of? base.negative base.mantissa (base.scale + places)
  else
    let kept := rescale (maxScale - places) base
    of? kept.negative kept.mantissa maxScale

def shiftUp (base : Decimal) (places : Nat) : Option Decimal :=
  if places ≤ base.scale then of? base.negative base.mantissa (base.scale - places)
  else of? base.negative (base.mantissa * tenTo (places - base.scale)) 0

def shifted (base : Decimal) : List Char → Option Decimal
  | '-' :: rest => (exponent? rest).bind (shiftDown base)
  | text => (exponent? text).bind (shiftUp base)

def isExponentMark (c : Char) : Bool := c == 'e' || c == 'E'

def ofScientific? (text : List Char) : Option Decimal :=
  match text.dropWhile fun c => !isExponentMark c with
  | [] => none
  | _ :: exponent =>
    (ofPlain? (text.takeWhile fun c => !isExponentMark c)).bind fun base => shifted base exponent

def ofText? (text : List Char) : Option Decimal :=
  (ofPlain? text).orElse fun _ => ofScientific? text

end DoubleEntry.Decimal
