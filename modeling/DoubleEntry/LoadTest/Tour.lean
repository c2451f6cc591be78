import DoubleEntry.Word

/-!
The tour of a load test: the transfer at an index goes from one account to its neighbour, and from the last
one to the first.
-/

set_option autoImplicit false

namespace DoubleEntry.LoadTest

-- Source and destination of a transfer. Indices are words.
def transferPair (ids : List Int) (i : Nat) : Except ArithmeticError (Int × Int) := do
  let source ← Word.mod i ids.length
  let next ← Word.add i 1
  let destination ← Word.mod next ids.length
  return (ids.getD source 0, ids.getD destination 0)

theorem pair_found (ids : List Int) (i : Nat) (some : 0 < ids.length) (narrow : i + 1 < Word.bound) :
    transferPair ids i = .ok (ids.getD (i % ids.length) 0, ids.getD ((i + 1) % ids.length) 0) := by
  simp only [transferPair, Word.mod, Word.add, Nat.ne_of_gt some, narrow, if_true, if_false, bind, Except.bind]
  rfl

end DoubleEntry.LoadTest
