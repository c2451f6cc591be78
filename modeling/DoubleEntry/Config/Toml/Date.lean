import DoubleEntry.Text.Digits
import DoubleEntry.Time.Calendar

/-!
Dates and times in a TOML text. A setting that is one of them is a text: it has a capital `T` between the date and the
time, a capital `Z`, and a fraction of at most nine digits without zeros at its end.
-/

set_option autoImplicit false

namespace DoubleEntry.Config.Toml

open Text

-- What has been read, in the form in which it is shown, and what is left.
abbrev Shown := Option (List Char × List Char)

def pair? (most : Nat) : List Char → Shown
  | c :: d :: rest => if c.isDigit && d.isDigit && natOfDigits [c, d] ≤ most then some ([c, d], rest) else none
  | _ => none

def date? : List Char → Shown
  | a :: b :: c :: d :: '-' :: e :: f :: '-' :: g :: h :: rest =>
    let date : Time.Date := ⟨natOfDigits [a, b, c, d], natOfDigits [e, f], natOfDigits [g, h]⟩
    if [a, b, c, d, e, f, g, h].all Char.isDigit && date.isValid then
      some ([a, b, c, d, '-', e, f, '-', g, h], rest)
    else none
  | _ => none

def fraction? : List Char → Shown
  | '.' :: rest =>
    let found := rest.takeWhile Char.isDigit
    let kept := dropTrailingZeros (found.take 9)
    if found.isEmpty then none
    else some ('.' :: (if kept.isEmpty then ['0'] else kept), rest.drop found.length)
  | rest => some ([], rest)

-- Seconds may be left out.
def time? (text : List Char) : Shown := do
  let (hour, rest) ← pair? 23 text
  let (minute, rest) ← match rest with
    | ':' :: rest => pair? 59 rest
    | _ => none
  match rest with
  | ':' :: rest => do
    let (second, rest) ← pair? 60 rest
    let (fraction, rest) ← fraction? rest
    some (hour ++ ':' :: minute ++ ':' :: second ++ fraction, rest)
  | rest => some (hour ++ ':' :: minute, rest)

-- What is ahead of Greenwich by nothing is not behind it.
def offset? : List Char → Shown
  | 'Z' :: rest | 'z' :: rest => some (['Z'], rest)
  | sign :: rest =>
    if sign == '+' || sign == '-' then do
      let (hour, rest) ← pair? 23 rest
      let (minute, rest) ← match rest with
        | ':' :: rest => pair? 59 rest
        | _ => none
      let sign := if natOfDigits (hour ++ minute) = 0 then '+' else sign
      some (sign :: hour ++ ':' :: minute, rest)
    else some ([], sign :: rest)
  | [] => some ([], [])

def isDateMark (c : Char) : Bool := c == 'T' || c == 't' || c == ' '

def moment? (text : List Char) : Option String := do
  let (shown, rest) ← match date? text with
    | some (date, []) => some (date, [])
    | some (date, mark :: rest) =>
      if isDateMark mark then do
        let (time, rest) ← time? rest
        let (offset, rest) ← offset? rest
        some (date ++ 'T' :: time ++ offset, rest)
      else none
    | none => time? text
  if rest.isEmpty then some (String.ofList shown) else none

end DoubleEntry.Config.Toml
