import DoubleEntry.Proofs.Program.Conduct

/-!
How long programs are. What counts is how many calls a program makes at most, whatever the replies, since each of
them takes the latency of the store.
-/

set_option autoImplicit false

namespace DoubleEntry

open Time (Stamp)

namespace Program

variable {α β : Type}

inductive Within : Nat → Program α → Prop
  | done (n : Nat) (a : α) : Within n (.done a)
  | log (n : Nat) (line : LogLine) (rest : Program α) (within : Within n rest) : Within n (.log line rest)
  | clock (n : Nat) (next : Stamp → Program α) (within : ∀ now, Within n (next now)) : Within n (.clock next)
  | call (n : Nat) (c : Call) (next : Except StoreError c.Reply → Program α) (within : ∀ reply, Within n (next reply)) :
      Within (n + 1) (.call c next)

theorem within_mono (n m : Nat) (p : Program α) (fewer : n ≤ m) (within : Within n p) : Within m p := by
  induction within generalizing m with
  | done n a => exact .done m a
  | log n line rest _ ih => exact .log m line rest (ih m fewer)
  | clock n next _ ih => exact .clock m next fun now => ih now m fewer
  | call n c next _ ih =>
      obtain ⟨m, rfl⟩ : ∃ k, m = k + 1 := ⟨m - 1, by omega⟩
      exact .call m c next fun reply => ih reply m (Nat.le_of_succ_le_succ fewer)

theorem within_closes (p : Program α) (a : α) (closes : p.Closes a) : Within 0 p := by
  induction closes with
  | done a => exact .done 0 a
  | log line rest a _ ih => exact .log 0 line rest ih

theorem within_bind (n m : Nat) (p : Program α) (f : α → Program β) (first : Within n p)
    (second : ∀ a, Within m (f a)) : Within (n + m) (p.bind f) := by
  induction first with
  | done n a => exact within_mono m _ _ (Nat.le_add_left m n) (second a)
  | log n line rest _ ih => exact .log _ line _ ih
  | clock n next _ ih => exact .clock _ _ ih
  | call n c next _ ih =>
      rw [Nat.add_right_comm]
      exact .call _ c _ ih

end Program
end DoubleEntry
