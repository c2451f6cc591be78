import DoubleEntry.Time.Calendar
import DoubleEntry.Text.Digits

/-!
Points in time. A `Moment` is a number of seconds from the start of 1970 in UTC and a fraction in
nanoseconds; a fraction of a whole second or more stands for a leap second. A `Stamp` is what the
ledger records: a moment that was given, or one reading of its clock.
-/

set_option autoImplicit false

namespace DoubleEntry.Time

def nanosPerSecond : Nat := tenTo 9
def secondsPerDay : Int := 86400

def epochDay : Int := 719528

structure Moment where
  seconds : Int
  nanos : Nat
  nanos_lt : nanos < 2 * nanosPerSecond
deriving DecidableEq

inductive Stamp where
  | moment (m : Moment)
  | tick (reading : Nat)
deriving DecidableEq

def newMillennium : Moment := ⟨946684800, 0, by decide⟩

instance : Inhabited Moment := ⟨newMillennium⟩
instance : Inhabited Stamp := ⟨.moment newMillennium⟩

namespace Moment

open Text

-- The fewest of 0, 3, 6 or 9 digits that show the fraction exactly.
def fractionText (nanos : Nat) : String :=
  if nanos = 0 then ""
  else if nanos % tenTo 6 = 0 then "." ++ paddedNat 3 (nanos / tenTo 6)
  else if nanos % tenTo 3 = 0 then "." ++ paddedNat 6 (nanos / tenTo 3)
  else "." ++ paddedNat 9 nanos

-- Four digits; a year outside them has its sign and at least four.
def yearText (year : Int) : String :=
  if 0 ≤ year && year ≤ 9999 then paddedNat 4 year.toNat
  else (if year < 0 then "-" else "+") ++ paddedNat 4 year.natAbs

def date (m : Moment) : Date := Date.ofDay (m.seconds / secondsPerDay + epochDay)

def secondOfDay (m : Moment) : Nat := (m.seconds % secondsPerDay).toNat

def isLeapSecond (m : Moment) : Bool := nanosPerSecond ≤ m.nanos

def write (zone : String) (m : Moment) : String :=
  let d := m.date
  let s := m.secondOfDay
  let second := s % 60 + if m.isLeapSecond then 1 else 0
  yearText d.year ++ "-" ++ paddedNat 2 d.month ++ "-" ++ paddedNat 2 d.day ++ "T" ++
    paddedNat 2 (s / 3600) ++ ":" ++ paddedNat 2 (s / 60 % 60) ++ ":" ++ paddedNat 2 second ++
    fractionText (m.nanos % nanosPerSecond) ++ zone

def withZ (m : Moment) : String := m.write "Z"
def withOffset (m : Moment) : String := m.write "+00:00"

end Moment

namespace Stamp

def tickText (reading : Nat) : String := s!"step:{reading}"

def withZ : Stamp → String
  | .moment m => m.withZ
  | .tick n => tickText n

def withOffset : Stamp → String
  | .moment m => m.withOffset
  | .tick n => tickText n

def isTick : Stamp → Bool
  | .moment _ => false
  | .tick _ => true

end Stamp
end DoubleEntry.Time
