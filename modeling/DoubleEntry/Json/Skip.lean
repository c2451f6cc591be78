import DoubleEntry.Json.Text

/-!
Values that nobody asked for. They have to be well formed, but numbers may be of any size and texts of any
encoding. The lists and objects that are open are kept as frames, the innermost first.
-/

set_option autoImplicit false

namespace DoubleEntry.Json

inductive Frame where
  | list
  | object

def Frame.closing : Frame → UInt8
  | list => byte ']'
  | object => byte '\x7d'

def Frame.endCause : Frame → Cause
  | list => .endInList
  | object => .endInObject

def Frame.expectedEnd : Frame → Cause
  | list => .expectedListEnd
  | object => .expectedObjectEnd

namespace Skip

def exponent (c : Cursor) : Outcome Cursor :=
  let c := c.next
  let c := if c.aheadIs '+' || c.aheadIs '-' then c.next else c
  if c.aheadIsDigit then .ok (c.skipWhile isDigit) else c.next.fail .invalidNumber

def exponentIfAny (c : Cursor) : Outcome Cursor := if c.aheadIsExponent then exponent c else .ok c

def fraction (c : Cursor) : Outcome Cursor :=
  let c := c.next
  if c.aheadIsDigit then exponentIfAny (c.skipWhile isDigit) else c.failAhead .invalidNumber

def numberTail (c : Cursor) : Outcome Cursor :=
  if c.aheadIs '.' then fraction c else exponentIfAny c

def magnitude (c : Cursor) : Outcome Cursor :=
  if c.aheadIs '0' then
    if c.next.aheadIsDigit then c.next.failAhead .invalidNumber else numberTail c.next
  else if c.aheadIsDigit then numberTail (c.skipWhile isDigit)
  else c.next.fail .invalidNumber

def scalar (b : UInt8) (c : Cursor) : Outcome Cursor :=
  if b == byte 'n' then readWord "ull".toList c.next
  else if b == byte 't' then readWord "rue".toList c.next
  else if b == byte 'f' then readWord "alse".toList c.next
  else if b == byte '"' then skipText c.next
  else if b == byte '-' then magnitude c.next
  else if isDigit b then magnitude c
  else c.failAhead .expectedValue

-- Closes frames up to the one that goes on, and passes the comma before its next part.
def close : List Frame → Bool → Cursor → Outcome (List Frame × Cursor)
  | [], _, c => .ok ([], c)
  | frame :: frames, afterValue, c =>
    let c := c.skipBlanks
    match c.peek with
    | none => c.failAhead frame.endCause
    | some b =>
      if afterValue && b == byte ',' then .ok (frame :: frames, c.next)
      else if b == frame.closing then close frames true c.next
      else if afterValue then c.failAhead frame.expectedEnd
      else .ok (frame :: frames, c)

def key (c : Cursor) : Outcome Cursor := do
  let c := c.skipBlanks
  match c.peek with
  | none => c.failAhead .endInObject
  | some b =>
    if b == byte '"' then
      let c := (← skipText c.next).skipBlanks
      match c.peek with
      | none => c.failAhead .endInObject
      | some b => if b == byte ':' then .ok c.next else c.failAhead .expectedColon
    else c.failAhead .keyNotText

-- A value, and then all that its frames still hold.
def value : Nat → List Frame → Cursor → Outcome Cursor
  | 0, _, c => c.fail .endInValue
  | fuel + 1, frames, c => do
    let c := c.skipBlanks
    match c.peek with
    | none => c.failAhead .endInValue
    | some b =>
      let (frames, c) ←
        if b == byte '[' then close (.list :: frames) false c.next
        else if b == byte '\x7b' then close (.object :: frames) false c.next
        else do close frames true (← scalar b c)
      match frames with
      | [] => .ok c
      | .list :: _ => value fuel frames c
      | .object :: _ => value fuel frames (← key c)

end Skip

def skipValue (c : Cursor) : Outcome Cursor := Skip.value (c.rest.length + 1) [] c

end DoubleEntry.Json
