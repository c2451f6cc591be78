/-!
The proleptic Gregorian calendar. Days are counted from 1 January of year 0; `Date.ofDay` takes the
count back to a date.
-/

set_option autoImplicit false

namespace DoubleEntry.Time

def isLeapYear (year : Int) : Bool :=
  (year % 4 == 0 && year % 100 != 0) || year % 400 == 0

def monthLengths (year : Int) : List Nat :=
  [31, if isLeapYear year then 29 else 28, 31, 30, 31, 30, 31, 31, 30, 31, 30, 31]

structure Date where
  year : Int
  month : Nat
  day : Nat
deriving DecidableEq, Repr

namespace Date

def firstYear : Int := -262143
def lastYear : Int := 262142

def isValid (d : Date) : Bool :=
  firstYear ≤ d.year && d.year ≤ lastYear && 1 ≤ d.month && d.month ≤ 12 && 1 ≤ d.day &&
    d.day ≤ (monthLengths d.year).getD (d.month - 1) 0

def daysBeforeYear (year : Int) : Int :=
  365 * year + (year + 3) / 4 - (year + 99) / 100 + (year + 399) / 400

def daysIn (months : List Nat) : Nat := months.foldr (fun days total => days + total) 0

def toDay (d : Date) : Int :=
  daysBeforeYear d.year + daysIn ((monthLengths d.year).take (d.month - 1)) + d.day - 1

def yearOfDay (day : Int) : Int :=
  let guess := 400 * day / 146097
  if daysBeforeYear (guess + 1) ≤ day then guess + 1
  else if day < daysBeforeYear guess then guess - 1
  else guess

def monthOfDay : List Nat → Nat → Nat → Nat × Nat
  | [], month, day => (month, day + 1)
  | length :: rest, month, day =>
    if day < length then (month, day + 1) else monthOfDay rest (month + 1) (day - length)

def ofDay (day : Int) : Date :=
  let year := yearOfDay day
  let (month, dayOfMonth) := monthOfDay (monthLengths year) 1 (day - daysBeforeYear year).toNat
  ⟨year, month, dayOfMonth⟩

end Date
end DoubleEntry.Time
