import DoubleEntry.Json.Cursor

/-!
Texts in quotes. Escapes stand for one character each; two of them may form a surrogate pair. A text that
is only passed over is checked for its escapes and controls, but not for surrogates or encoding.
-/

set_option autoImplicit false

namespace DoubleEntry.Json

open Text (Bytes)

-- Where a reader stands inside a text. `hex` has the digits of an escape so far, the last one first,
-- and `high` is the first half of a surrogate pair.
inductive TextState where
  | plain
  | escape
  | hex (high : Option Nat) (digits : Bytes)
  | high (first : Nat)
  | highEscape (first : Nat)

def hexValue (b : UInt8) : Option Nat :=
  if isDigit b then some (digitOf b)
  else if 97 ≤ b && b ≤ 102 then some (b.toNat - 87)
  else if 65 ≤ b && b ≤ 70 then some (b.toNat - 55)
  else none

def hexNumber : Bytes → Option Nat
  | [] => some 0
  | b :: rest => (hexValue b).bind fun d => (hexNumber rest).map fun n => n * 16 + d

def isHighSurrogate (n : Nat) : Bool := 0xD800 ≤ n && n ≤ 0xDBFF
def isLowSurrogate (n : Nat) : Bool := 0xDC00 ≤ n && n ≤ 0xDFFF

def codePointBytes (n : Nat) : Bytes := String.utf8EncodeChar (Char.ofNat n)

def simpleEscape (b : UInt8) : Option UInt8 :=
  if b == byte '"' || b == byte '\\' || b == byte '/' then some b
  else if b == byte 'b' then some 8
  else if b == byte 'f' then some 12
  else if b == byte 'n' then some 10
  else if b == byte 'r' then some 13
  else if b == byte 't' then some 9
  else none

-- What the number of an escape stands for: a character, or the first half of a surrogate pair.
inductive EscapeValue where
  | point (n : Nat)
  | firstHalf (n : Nat)

def escapeValue (high : Option Nat) (n : Nat) : Except Cause EscapeValue :=
  match high with
  | none =>
    if isLowSurrogate n then .error .loneSurrogate
    else if isHighSurrogate n then .ok (.firstHalf n)
    else .ok (.point n)
  | some first =>
    if isLowSurrogate n then .ok (.point ((first - 0xD800) * 0x400 + (n - 0xDC00) + 0x10000))
    else .error .loneSurrogate

def readBytesFrom : TextState → Bytes → Bytes → Nat → Outcome (Bytes × Cursor)
  | _, _, [], index => .error ⟨.endInText, index, []⟩
  | state, read, b :: rest, index =>
    let fail {α : Type} (cause : Cause) : Outcome α := .error ⟨cause, index + 1, []⟩
    match state with
    | .plain =>
      if b == byte '"' then .ok (read.reverse, ⟨b :: rest, index⟩)
      else if b == byte '\\' then readBytesFrom .escape read rest (index + 1)
      else if b < 32 then fail .controlCharacter
      else readBytesFrom .plain (b :: read) rest (index + 1)
    | .escape =>
      if b == byte 'u' then readBytesFrom (.hex none []) read rest (index + 1)
      else
        match simpleEscape b with
        | some e => readBytesFrom .plain (e :: read) rest (index + 1)
        | none => fail .invalidEscape
    | .hex high digits =>
      if digits.length < 3 then readBytesFrom (.hex high (b :: digits)) read rest (index + 1)
      else
        match hexNumber (b :: digits) with
        | none => fail .invalidEscape
        | some n =>
          match escapeValue high n with
          | .error cause => fail cause
          | .ok (.firstHalf first) => readBytesFrom (.high first) read rest (index + 1)
          | .ok (.point point) =>
            readBytesFrom .plain ((codePointBytes point).reverse ++ read) rest (index + 1)
    | .high first =>
      if b == byte '\\' then readBytesFrom (.highEscape first) read rest (index + 1)
      else fail .endOfEscape
    | .highEscape first =>
      if b == byte 'u' then readBytesFrom (.hex (some first) []) read rest (index + 1)
      else fail .endOfEscape

def readTextBody : Reader String := fun c => do
  let (bytes, c) ← readBytesFrom .plain [] c.rest c.index
  match Text.decode? bytes with
  | some s => .ok (s, c.next)
  | none => c.fail .invalidCodePoint

def skipTextFrom : TextState → Bytes → Nat → Outcome Cursor
  | _, [], index => .error ⟨.endInText, index, []⟩
  | state, b :: rest, index =>
    match state with
    | .plain =>
      if b == byte '"' then .ok ⟨rest, index + 1⟩
      else if b == byte '\\' then skipTextFrom .escape rest (index + 1)
      else if b < 32 then .error ⟨.controlCharacter, index, []⟩
      else skipTextFrom .plain rest (index + 1)
    | .hex high digits =>
      if digits.length < 3 then skipTextFrom (.hex high (b :: digits)) rest (index + 1)
      else if (hexNumber (b :: digits)).isSome then skipTextFrom .plain rest (index + 1)
      else .error ⟨.invalidEscape, index + 1, []⟩
    | _ =>
      if b == byte 'u' then skipTextFrom (.hex none []) rest (index + 1)
      else if (simpleEscape b).isSome then skipTextFrom .plain rest (index + 1)
      else .error ⟨.invalidEscape, index + 1, []⟩

def skipText (c : Cursor) : Outcome Cursor := skipTextFrom .plain c.rest c.index

end DoubleEntry.Json
