import DoubleEntry.Power

/-!
Digit strings: the digits of a number, padding on the left, and the value of a digit string.
-/

set_option autoImplicit false

namespace DoubleEntry.Text

def digits (n : Nat) : List Char := Nat.toDigits 10 n

def padLeft (width : Nat) (fill : Char) (text : List Char) : List Char :=
  List.replicate (width - text.length) fill ++ text

def digitValue (c : Char) : Nat := c.toNat - '0'.toNat

def natOfDigits (text : List Char) : Nat :=
  text.foldl (fun value c => value * 10 + digitValue c) 0

def nat? (text : List Char) : Option Nat :=
  if !text.isEmpty && text.all Char.isDigit then some (natOfDigits text) else none

def int? : List Char → Option Int
  | '-' :: rest => (nat? rest).map fun n => -(n : Int)
  | '+' :: rest => (nat? rest).map Int.ofNat
  | rest => (nat? rest).map Int.ofNat

def isInt64 (n : Int) : Bool := -(twoTo 63 : Int) ≤ n && n < twoTo 63

def int64? (text : List Char) : Option Int := (int? text).filter isInt64

def paddedNat (width n : Nat) : String := String.ofList (padLeft width '0' (digits n))

def dropTrailingZeros (text : List Char) : List Char :=
  (text.reverse.dropWhile (· == '0')).reverse

end DoubleEntry.Text
