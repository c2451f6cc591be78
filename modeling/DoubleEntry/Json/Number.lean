import DoubleEntry.Json.Cursor

/-!
Numbers. A numeral without fraction or exponent that fits 64 bits is an integer; every other is a binary
floating-point number. The first digits that fit 64 bits are its significand, which is rounded once and
then multiplied or divided by a power of ten.
-/

set_option autoImplicit false

namespace DoubleEntry.Json

open Text (Bytes)

inductive Number where
  | integer (n : Int)
  | float (x : Binary64)

namespace Number

def wordBound : Nat := twoTo 64

-- Digits as long as the value fits 64 bits: the value, how many there were, and the digit's place that
-- no longer fits, if any.
def readDigitsFrom (value count : Nat) : Bytes → Nat → Nat × Nat × Cursor
  | [], index => (value, count, ⟨[], index⟩)
  | b :: rest, index =>
    if isDigit b && value * 10 + digitOf b < wordBound then
      readDigitsFrom (value * 10 + digitOf b) (count + 1) rest (index + 1)
    else (value, count, ⟨b :: rest, index⟩)

def readDigits (value : Nat) (c : Cursor) : Nat × Nat × Cursor := readDigitsFrom value 0 c.rest c.index

def greatestPower : Nat := 308

def signed (negative : Bool) (x : Binary64) : Binary64 := if negative then x.neg else x

-- Divides by the greatest power of ten as often as the exponent goes below it.
def shrink : Nat → Binary64 → Nat → Binary64
  | 0, x, _ => x
  | fuel + 1, x, n =>
    if n ≤ greatestPower then x.overPowerOfTen n
    else if x.isZero then x
    else shrink fuel (x.overPowerOfTen greatestPower) (n - greatestPower)

def scale (negative : Bool) (significand : Nat) (exponent : Int) : Option Binary64 :=
  let x := Binary64.ofNat significand
  if 0 ≤ exponent then
    if exponent ≤ greatestPower then
      let y := x.timesPowerOfTen exponent.toNat
      if y.isInfinite then none else some (signed negative y)
    else if x.isZero then some (signed negative x)
    else none
  else
    let n := exponent.natAbs
    some (signed negative (shrink (n / greatestPower + 1) x n))

def scaled (negative : Bool) (significand : Nat) (exponent : Int) : Reader Number := fun c =>
  match scale negative significand exponent with
  | some x => .ok (.float x, c)
  | none => c.fail .numberOutOfRange

def exponentBound : Nat := twoTo 31

def clampExponent (e : Int) : Int := max (-(exponentBound : Int)) (min e (exponentBound - 1))

def readExponentDigits (value : Nat) : Bytes → Nat → Option Nat × Cursor
  | [], index => (some value, ⟨[], index⟩)
  | b :: rest, index =>
    if isDigit b then
      if value * 10 + digitOf b < exponentBound then
        readExponentDigits (value * 10 + digitOf b) rest (index + 1)
      else (none, ⟨rest, index + 1⟩)
    else (some value, ⟨b :: rest, index⟩)

def readExponent (negative : Bool) (significand : Nat) (exponent : Int) : Reader Number := fun c =>
  let c := c.next
  let negativeExponent := c.aheadIs '-'
  let c := if c.aheadIs '+' || negativeExponent then c.next else c
  match c.peek with
  | none => c.fail .endInValue
  | some b =>
    if isDigit b then
      match readExponentDigits (digitOf b) c.next.rest c.next.index with
      | (some e, c) =>
        let e : Int := if negativeExponent then exponent - e else exponent + e
        scaled negative significand (clampExponent e) c
      | (none, c) =>
        if significand != 0 && !negativeExponent then c.fail .numberOutOfRange
        else .ok (.float (signed negative (Binary64.ofNat 0)), c.skipWhile isDigit)
    else c.next.fail .invalidNumber

def finish (negative : Bool) (significand : Nat) (exponent : Int) : Reader Number := fun c =>
  if c.aheadIsExponent then readExponent negative significand exponent c
  else scaled negative significand exponent c

def readFraction (negative : Bool) (significand : Nat) (exponent : Int) : Reader Number := fun c =>
  let (value, count, c) := readDigits significand c.next
  if c.aheadIsDigit then
    finish negative value (exponent - count) (c.skipWhile isDigit)
  else if count = 0 then
    match c.peek with
    | some _ => c.failAhead .invalidNumber
    | none => c.failAhead .endInValue
  else finish negative value (exponent - count) c

-- After digits before the point, of which `exponent` are left out of the significand.
def readTail (negative : Bool) (significand exponent : Nat) : Reader Number := fun c =>
  if c.aheadIs '.' then readFraction negative significand exponent c
  else finish negative significand exponent c

-- An integer, where nothing but digits was seen. A negative zero and what lies below 64 bits are
-- floating-point numbers.
def whole (negative : Bool) (n : Nat) : Number :=
  if !negative then .integer n
  else if n = 0 || twoTo 63 < n then .float (Binary64.ofNat n).neg
  else .integer (-(n : Int))

def readMagnitude (negative : Bool) : Reader Number := fun c =>
  match c.peek with
  | none => c.fail .endInValue
  | some b =>
    if b == byte '0' then
      let c := c.next
      if c.aheadIsDigit then c.failAhead .invalidNumber
      else if c.aheadIs '.' || c.aheadIsExponent then readTail negative 0 0 c
      else .ok (whole negative 0, c)
    else if isDigit b then
      let (value, _, c) := readDigits (digitOf b) c.next
      if c.aheadIsDigit then
        let after := c.skipWhile isDigit
        readTail negative value (after.index - c.index) after
      else if c.aheadIs '.' || c.aheadIsExponent then readTail negative value 0 c
      else .ok (whole negative value, c)
    else c.next.fail .invalidNumber

def read : Reader Number := fun c =>
  if c.aheadIs '-' then readMagnitude true c.next else readMagnitude false c

def found : Number → Found
  | integer n => .integer n
  | float x => .float x

end Number
end DoubleEntry.Json
