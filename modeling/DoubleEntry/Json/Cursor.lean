import DoubleEntry.Json.Error

/-!
A place in a JSON text: the bytes that are left and the index of the first of them. An error is noticed
either at the cursor or on the byte that the cursor is about to pass.
-/

set_option autoImplicit false

namespace DoubleEntry.Json

open Text (Bytes)

structure Cursor where
  rest : Bytes
  index : Nat

abbrev Outcome (α : Type) := Except Error α

abbrev Reader (α : Type) := Cursor → Outcome (α × Cursor)

def byte (c : Char) : UInt8 := c.toNat.toUInt8

def isDigit (b : UInt8) : Bool := 48 ≤ b && b ≤ 57
def digitOf (b : UInt8) : Nat := b.toNat - 48
def isBlank (b : UInt8) : Bool := b == 32 || b == 10 || b == 9 || b == 13

namespace Cursor

def start (input : Bytes) : Cursor := ⟨input, 0⟩

def peek (c : Cursor) : Option UInt8 := c.rest.head?

def next (c : Cursor) : Cursor := ⟨c.rest.tail, c.index + if c.rest.isEmpty then 0 else 1⟩

def fail {α : Type} (c : Cursor) (cause : Cause) : Outcome α := .error ⟨cause, c.index, []⟩

def failAhead {α : Type} (c : Cursor) (cause : Cause) : Outcome α := .error ⟨cause, c.next.index, []⟩

def skipWhileFrom (p : UInt8 → Bool) : Bytes → Nat → Cursor
  | [], index => ⟨[], index⟩
  | b :: rest, index => if p b then skipWhileFrom p rest (index + 1) else ⟨b :: rest, index⟩

def skipWhile (p : UInt8 → Bool) (c : Cursor) : Cursor := skipWhileFrom p c.rest c.index

def skipBlanks (c : Cursor) : Cursor := c.skipWhile isBlank

def aheadIsDigit (c : Cursor) : Bool := c.peek.any isDigit

def aheadIs (c : Cursor) (ch : Char) : Bool := c.peek == some (byte ch)

def aheadIsExponent (c : Cursor) : Bool := c.aheadIs 'e' || c.aheadIs 'E'

end Cursor

def readWord : List Char → Cursor → Outcome Cursor
  | [], c => .ok c
  | ch :: word, c =>
    match c.peek with
    | none => c.fail .endInValue
    | some b => if b == byte ch then readWord word c.next else c.next.fail .expectedIdent

end DoubleEntry.Json
