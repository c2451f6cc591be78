import DoubleEntry.Decimal.Rounding
import DoubleEntry.Text.Digits

/-!
Binary floating point of 64 bits, by its values. A finite number is `significand · 2^exponent` with a
significand below 2⁵³, and at least 2⁵² unless the exponent is the least. `nearest` rounds a quotient,
a half going to the even significand; products and quotients round their exact value. The text is the
shortest that reads back: of all decimals with the fewest digits that round to the number, the nearest.
-/

set_option autoImplicit false

namespace DoubleEntry

inductive Binary64 where
  | finite (negative : Bool) (significand : Nat) (exponent : Int)
  | infinite (negative : Bool)
  | nan
deriving DecidableEq, Repr

namespace Binary64

def leastExponent : Int := -1074
def greatestExponent : Int := 971
def hiddenBit : Nat := twoTo 52

def shiftRatio (n d : Nat) (e : Int) : Nat × Nat :=
  (n * twoTo e.toNat, d * twoTo (-e).toNat)

def nearest (negative : Bool) (n d : Nat) : Binary64 :=
  if n = 0 then .finite negative 0 leastExponent
  else
    let guess := (Nat.log2 n : Int) - Nat.log2 d - 52
    let (gn, gd) := shiftRatio n d (-guess)
    let e := max (if gn / gd < hiddenBit then guess - 1 else guess) leastExponent
    let (sn, sd) := shiftRatio n d (-e)
    let q := roundHalfEven sn sd
    let (q, e) := if q = 2 * hiddenBit then (hiddenBit, e + 1) else (q, e)
    if greatestExponent < e then .infinite negative else .finite negative q e

def ofNat (n : Nat) : Binary64 := nearest false n 1

def ofScaled (negative : Bool) (digits : Nat) (e : Int) : Binary64 :=
  nearest negative (digits * tenTo e.toNat) (tenTo (-e).toNat)

def neg : Binary64 → Binary64
  | finite s m e => .finite (!s) m e
  | infinite s => .infinite (!s)
  | nan => .nan

def isZero : Binary64 → Bool
  | finite _ m _ => m == 0
  | _ => false

def isInfinite : Binary64 → Bool
  | infinite _ => true
  | _ => false

def ratio (significand : Nat) (exponent : Int) : Nat × Nat := shiftRatio significand 1 exponent

def timesPowerOfTen (x : Binary64) (n : Nat) : Binary64 :=
  match x, ofNat (tenTo n) with
  | .finite s m e, .finite _ m' e' =>
    let (a, b) := ratio (m * m') (e + e')
    nearest s a b
  | x, _ => x

def overPowerOfTen (x : Binary64) (n : Nat) : Binary64 :=
  match x, ofNat (tenTo n) with
  | .finite s m e, .finite _ m' e' =>
    let (a, b) := shiftRatio m m' (e - e')
    nearest s a b
  | x, _ => x

def leadingExponent (n d : Nat) : Int :=
  if d ≤ n then (Text.digits (n / d)).length - 1
  else -(Text.digits ((d + n - 1) / n - 1)).length

structure Digits where
  digits : Nat
  exponent : Int
deriving DecidableEq, Repr

-- With `count` digits: the nearer neighbour of `n / d` that lies within the interval that rounds to it,
-- whose ends are `low` and `high` quarters of a unit away.
def withDigits? (n d low high : Nat) (closed : Bool) (count : Nat) : Option Digits :=
  let e := leadingExponent n d - count + 1
  let grid := d * tenTo e.toNat
  let value := n * tenTo (-e).toNat
  let below := low * tenTo (-e).toNat
  let above := high * tenTo (-e).toNat
  let q := value / grid
  let down := value - q * grid
  let up := (q + 1) * grid - value
  let downFits := if closed then down ≤ below else down < below
  let upFits := if closed then up ≤ above else up < above
  let useDown := down < up || (down == up && q % 2 == 0)
  if downFits && (useDown || !upFits) && q != 0 then some ⟨q, e⟩
  else if upFits then some (if q + 1 = tenTo count then ⟨tenTo (count - 1), e + 1⟩ else ⟨q + 1, e⟩)
  else none

def shortest (significand : Nat) (exponent : Int) : Digits :=
  let lowGap := if significand = hiddenBit && leastExponent < exponent then 1 else 2
  let (n, d) := shiftRatio (4 * significand) 4 exponent
  let (low, _) := shiftRatio lowGap 4 exponent
  let (high, _) := shiftRatio 2 4 exponent
  let found := (List.range' 1 17).findSome? (withDigits? n d low high (significand % 2 == 0))
  found.getD ⟨n / d, 0⟩

def signText (negative : Bool) : List Char := if negative then ['-'] else []

-- Digits with the point in its place, and zeros up to it where there are none.
def positional (digits : List Char) (exponent : Int) : List Char × List Char :=
  if 0 ≤ exponent then (digits ++ List.replicate exponent.toNat '0', [])
  else
    let places := (-exponent).toNat
    let all := Text.padLeft (places + 1) '0' digits
    (all.take (all.length - places), all.drop (all.length - places))

def plainText : Binary64 → List Char
  | nan => "NaN".toList
  | infinite s => signText s ++ "inf".toList
  | finite s m e =>
    if m = 0 then signText s ++ ['0']
    else
      let found := shortest m e
      let (whole, fraction) := positional (Text.digits found.digits) found.exponent
      signText s ++ whole ++ if fraction.isEmpty then [] else '.' :: fraction

-- A point in every number from 10⁻⁵ to 10¹⁶; an exponent with its sign outside of them.
def markedText : Binary64 → List Char
  | nan => "NaN".toList
  | infinite s => signText s ++ "inf".toList
  | finite s m e =>
    if m = 0 then signText s ++ "0.0".toList
    else
      let found := shortest m e
      let digits := Text.digits found.digits
      let leading := found.exponent + digits.length - 1
      if -5 ≤ leading && leading < 16 then
        let (whole, fraction) := positional digits found.exponent
        signText s ++ whole ++ '.' :: (if fraction.isEmpty then ['0'] else fraction)
      else
        let tail := digits.drop 1
        signText s ++ digits.take 1 ++ (if tail.isEmpty then [] else '.' :: tail) ++
          ('e' :: (if leading < 0 then '-' else '+') :: Text.digits leading.natAbs)

end Binary64
end DoubleEntry
