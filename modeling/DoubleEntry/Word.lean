import DoubleEntry.Power

/-!
Whole numbers kept in words of 64 bits, and the ways in which arithmetic on them or on decimals is
refused.
-/

set_option autoImplicit false

namespace DoubleEntry

inductive ArithmeticError where
  | addition
  | multiplication
  | remainderByZero
  | decimalSubtraction
  | timeSum
deriving DecidableEq, Repr

def ArithmeticError.message : ArithmeticError → String
  | .addition => "attempt to add with overflow"
  | .multiplication => "attempt to multiply with overflow"
  | .remainderByZero => "attempt to calculate the remainder with a divisor of zero"
  | .decimalSubtraction => "Subtraction overflowed"
  | .timeSum => "overflow in iter::sum over durations"

section Results

theorem bound_ok {α β ε : Type} (x : Except ε α) (f : α → Except ε β) (b : β) (result : x.bind f = .ok b) :
    ∃ a, x = .ok a ∧ f a = .ok b := by
  cases x with
  | ok a => exact ⟨a, rfl, result⟩
  | error e => cases result

theorem all_done {α β ε : Type} (f : α → Except ε β) (g : α → β) (l : List α) (done : ∀ x ∈ l, f x = .ok (g x)) :
    l.mapM f = .ok (l.map g) := by
  induction l with
  | nil => rfl
  | cons x l ih =>
      rw [List.mapM_cons, done x List.mem_cons_self, ih fun y member => done y (List.mem_cons_of_mem x member)]
      rfl

end Results

namespace Word

def bound : Nat := twoTo 64

def mul (a b : Nat) : Except ArithmeticError Nat :=
  if a * b < bound then .ok (a * b) else .error .multiplication

def add (a b : Nat) : Except ArithmeticError Nat :=
  if a + b < bound then .ok (a + b) else .error .addition

def mod (a b : Nat) : Except ArithmeticError Nat :=
  if b = 0 then .error .remainderByZero else .ok (a % b)

end Word
end DoubleEntry
