import DoubleEntry.Text.Digits

/-!
Lengths of time in nanoseconds, and their text: a number in the largest unit of which there is at
least one, with as many fractional digits as are needed.
-/

set_option autoImplicit false

namespace DoubleEntry.Time

structure Span where
  nanos : Nat
deriving DecidableEq, Repr

namespace Span

open Text

def zero : Span := ⟨0⟩

-- Whole seconds are kept in a word.
def bound : Nat := twoTo 64 * tenTo 9

def ofMillis (n : Nat) : Span := ⟨n * tenTo 6⟩
def millis (s : Span) : Nat := s.nanos / tenTo 6

def fractionText (width rest : Nat) : String :=
  if rest = 0 then ""
  else "." ++ String.ofList (dropTrailingZeros (padLeft width '0' (digits rest)))

def inUnit (nanos places : Nat) (unit : String) : String :=
  toString (nanos / tenTo places) ++ fractionText places (nanos % tenTo places) ++ unit

def toText (s : Span) : String :=
  if tenTo 9 ≤ s.nanos then inUnit s.nanos 9 "s"
  else if tenTo 6 ≤ s.nanos then inUnit s.nanos 6 "ms"
  else if tenTo 3 ≤ s.nanos then inUnit s.nanos 3 "µs"
  else inUnit s.nanos 0 "ns"

instance : ToString Span := ⟨toText⟩

end Span
end DoubleEntry.Time
