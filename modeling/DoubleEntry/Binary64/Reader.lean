import DoubleEntry.Binary64

/-!
Floating-point numbers from text: a sign, digits with at most one point among them, and an exponent, or
else one of the words for what is not finite, in letters of either size. The nearest number is taken; a
number whose first digit stands beyond every finite one is infinite, and one far below all of them is zero.
-/

set_option autoImplicit false

namespace DoubleEntry.Binary64

open Text

-- No number of this many digits before the point is finite, and none with as many zeros behind it differs
-- from zero.
def digitReach : Int := 400

def ofDecimal (negative : Bool) (n : Nat) (e : Int) : Binary64 :=
  let reach := (digits n).length + e
  if n = 0 || reach < -digitReach then .finite negative 0 leastExponent
  else if digitReach < reach then .infinite negative
  else ofScaled negative n e

def exponent? : List Char → Option Int
  | [] => some 0
  | _ :: text => int? text

def ofNumeral? (negative : Bool) (text : List Char) : Option Binary64 :=
  let numeral := text.takeWhile (· != 'e')
  let fraction := (numeral.dropWhile (· != '.')).drop 1
  match nat? (numeral.takeWhile (· != '.') ++ fraction), exponent? (text.dropWhile (· != 'e')) with
  | some n, some e => some (ofDecimal negative n (e - fraction.length))
  | _, _ => none

def ofUnsigned? (negative : Bool) (text : List Char) : Option Binary64 :=
  let small := text.map Char.toLower
  if small == "inf".toList || small == "infinity".toList then some (.infinite negative)
  else if small == "nan".toList then some .nan
  else ofNumeral? negative small

def ofText? : List Char → Option Binary64
  | '-' :: text => ofUnsigned? true text
  | '+' :: text => ofUnsigned? false text
  | text => ofUnsigned? false text

-- The nearest whole number within bounds, a half going away from zero. What is not a number is zero.
def clamp (low high : Int) : Binary64 → Int
  | nan => 0
  | infinite negative => if negative then low else high
  | finite negative m e =>
    let (n, d) := ratio m e
    let size : Int := roundHalfUp n d
    max low (min high (if negative then -size else size))

end DoubleEntry.Binary64
