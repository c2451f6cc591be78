/-!
Powers of ten, by which decimals are scaled, and of two, by which words are bounded.
-/

set_option autoImplicit false

namespace DoubleEntry

def tenTo (n : Nat) : Nat := Nat.pow 10 n
def twoTo (n : Nat) : Nat := Nat.pow 2 n

theorem ten_to_zero : tenTo 0 = 1 := rfl

theorem ten_to_succ (n : Nat) : tenTo (n + 1) = tenTo n * 10 := rfl

theorem ten_to_pos (n : Nat) : 0 < tenTo n := by
  induction n with
  | zero => decide
  | succ n ih => rw [ten_to_succ]; omega

theorem ten_to_add (m n : Nat) : tenTo (m + n) = tenTo m * tenTo n := by
  induction n with
  | zero => simp [ten_to_zero]
  | succ n ih => rw [← Nat.add_assoc, ten_to_succ, ten_to_succ, ih, Nat.mul_assoc]

theorem two_to_succ (n : Nat) : twoTo (n + 1) = twoTo n * 2 := rfl

theorem two_to_pos (n : Nat) : 0 < twoTo n := by
  induction n with
  | zero => decide
  | succ n ih => rw [two_to_succ]; omega

end DoubleEntry
