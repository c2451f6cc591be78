import DoubleEntry.Time.Moment
import DoubleEntry.Text.Blank

/-!
Dates and times with a zone, from text. The form is that of RFC 3339, read with some freedom: blanks
before the numbers and around the marks, one or two digits where two are usual, years with a sign, a
blank or a small letter for `T` and `Z`, and offsets with or without their colon.
-/

set_option autoImplicit false

namespace DoubleEntry.Time

inductive ReadError where
  | outOfRange
  | impossible
  | invalid
  | tooShort
  | trailing
deriving DecidableEq, Repr

def ReadError.message : ReadError → String
  | .outOfRange => "input is out of range"
  | .impossible => "no possible date and time matching input"
  | .invalid => "input contains invalid characters"
  | .tooShort => "premature end of input"
  | .trailing => "trailing input"

namespace Reader

open Text

abbrev Read := Except ReadError

def number (most : Nat) (text : List Char) : Read (Nat × List Char) :=
  let found := (text.take most).takeWhile Char.isDigit
  if !found.isEmpty then
    let n := natOfDigits found
    if n < twoTo 63 then .ok (n, text.drop found.length) else .error .outOfRange
  else if text.isEmpty then .error .tooShort
  else .error .invalid

def mark (c : Char) : List Char → Read (List Char)
  | [] => .error .tooShort
  | d :: rest => if d == c then .ok rest else .error .invalid

def separator (c : Char) (text : List Char) : Read (List Char) :=
  mark c (dropBlanks text)

def bounded (low high : Nat) (text : List Char) : Read (Nat × List Char) := do
  let (n, rest) ← number 2 (dropBlanks text)
  if low ≤ n && n ≤ high then .ok (n, rest) else .error .outOfRange

def year (text : List Char) : Read (Int × List Char) := do
  let (y, rest) ← match dropBlanks text with
    | '-' :: rest => (number rest.length rest).map fun (n, rest) => (-(n : Int), rest)
    | '+' :: rest => (number rest.length rest).map fun (n, rest) => ((n : Int), rest)
    | rest => (number 4 rest).map fun (n, rest) => ((n : Int), rest)
  if -(twoTo 31 : Int) ≤ y && y < twoTo 31 then .ok (y, rest) else .error .outOfRange

def date (text : List Char) : Read (Date × List Char) := do
  let (y, text) ← year text
  let text ← separator '-' text
  let (month, text) ← bounded 1 12 text
  let text ← separator '-' text
  let (day, text) ← bounded 1 31 text
  .ok (⟨y, month, day⟩, text)

def dateMark : List Char → Read (List Char)
  | [] => .error .tooShort
  | c :: rest => if c == 'T' || c == 't' || c == ' ' then .ok rest else .error .invalid

-- Nine digits count; those after them are passed over.
def fraction : List Char → Read (Nat × List Char)
  | '.' :: rest => do
    let (_, after) ← number 9 rest
    let found := (rest.take 9).takeWhile Char.isDigit
    .ok (natOfDigits found * tenTo (9 - found.length), after.dropWhile Char.isDigit)
  | rest => .ok (0, rest)

structure Clock where
  hour : Nat
  minute : Nat
  second : Nat
  nanos : Nat

def clock (text : List Char) : Read (Clock × List Char) := do
  let (hour, text) ← bounded 0 23 text
  let text ← separator ':' text
  let (minute, text) ← bounded 0 59 text
  let text ← separator ':' text
  let (second, text) ← bounded 0 60 text
  let (nanos, text) ← fraction text
  .ok (⟨hour, minute, second, nanos⟩, text)

def twoDigits : List Char → Read ((Char × Char) × List Char)
  | a :: b :: rest =>
    if a.isDigit && b.isDigit then .ok ((a, b), rest)
    else .error .invalid
  | _ => .error .tooShort

def isOffsetMark (c : Char) : Bool := c == ':' || isBlank c

def offsetSize (text : List Char) : Read (Int × List Char) := do
  let ((h1, h2), text) ← twoDigits text
  let ((m1, m2), text) ← twoDigits (text.dropWhile isOffsetMark)
  if digitValue m1 < 6 then
    let hours := digitValue h1 * 10 + digitValue h2
    let minutes := digitValue m1 * 10 + digitValue m2
    .ok (Int.ofNat (hours * 3600 + minutes * 60), text)
  else .error .outOfRange

def minusSign : Char := '\u2212'

def offset : List Char → Read (Int × List Char)
  | [] => .error .tooShort
  | c :: rest =>
    if c == 'Z' || c == 'z' then .ok (0, rest)
    else if c == '+' then offsetSize rest
    else if c == '-' || c == minusSign then
      (offsetSize rest).map fun (seconds, rest) => (-seconds, rest)
    else .error .invalid

def isUtcName (text : List Char) : Bool :=
  text.length == 3 && text.map Char.toUpper == ['U', 'T', 'C']

def zone (text : List Char) : Read (Int × List Char) :=
  let text := dropBlanks text
  if isUtcName (text.take 3) then .ok (0, text.drop 3) else offset text

def leapNanos (second : Nat) : Nat := if second = 60 then nanosPerSecond else 0

def moment (d : Date) (c : Clock) (offset : Int) : Except ReadError Moment :=
  if !d.isValid then .error .outOfRange
  else if secondsPerDay ≤ offset || offset ≤ -secondsPerDay then .error .outOfRange
  else
    let second := if c.second = 60 then 59 else c.second
    let wall := (d.toDay - epochDay) * secondsPerDay + (c.hour * 3600 + c.minute * 60 + second : Nat)
    let nanos := c.nanos + leapNanos c.second
    if fits : nanos < 2 * nanosPerSecond then
      let m : Moment := ⟨wall - offset, nanos, fits⟩
      if Date.firstYear ≤ m.date.year && m.date.year ≤ Date.lastYear then .ok m
      else .error .impossible
    else .error .outOfRange

end Reader

def Moment.parse (text : String) : Except ReadError Moment := do
  let (d, rest) ← Reader.date text.toList
  let rest ← Reader.dateMark rest
  let (c, rest) ← Reader.clock rest
  let (offset, rest) ← Reader.zone rest
  if (Text.dropBlanks rest).isEmpty then Reader.moment d c offset else .error .trailing

end DoubleEntry.Time
