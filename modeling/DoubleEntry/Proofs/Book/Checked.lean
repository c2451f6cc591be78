import DoubleEntry.Proofs.Book.Balanced
import DoubleEntry.Proofs.Decimal.Difference

/-!
What a schema would check in a book: the ids of accounts, and the magnitudes of balances and of entries. New accounts,
credits and entries are compared with it before they are written. A debit is not, and does not have to be as long as
something is taken: only a debit of less than nothing can take a balance to the limit, or to where it is no number.
-/

set_option autoImplicit false

namespace DoubleEntry.Book

open Time (Stamp)

structure Checked (b : Book) : Prop where
  ids : ∀ a ∈ b.accounts, 1 ≤ a.id
  balances : ∀ a ∈ b.accounts, |a.balance.value| < 10 ^ 23
  amounts : ∀ e ∈ b.entries, |e.amount.value| < 10 ^ 23

-- A debit of less than nothing, after which no balance below the limit is left.
inductive Inflates (b : Book) : Call → Prop
  | debit (id : AccountId) (amount : Decimal) (now : Stamp) (a : Account) (found : b.account? id = some a)
      (negative : amount.value < 0) (passes : amount.value ≤ a.balance.value)
      (outgrown : ∀ d, a.balance.sub? amount = some d → ¬ |d.value| < 10 ^ 23) : Inflates b (.debit id amount now)

theorem empty_checked : empty.Checked := by
  refine ⟨?_, ?_, ?_⟩ <;> intro _ member <;> cases member

section Writes

variable (b : Book) (checked : b.Checked)

include checked

theorem update_checked (id : AccountId) (balance : Decimal) (now : Stamp) (below : |balance.value| < 10 ^ 23) :
    (b.update id fun a => { a with balance, modified := now }).Checked := by
  have kept : ∀ a ∈ (b.update id fun a => { a with balance, modified := now }).accounts,
      1 ≤ a.id ∧ |a.balance.value| < 10 ^ 23 := by
    intro a member
    obtain ⟨old, among, rfl⟩ := List.mem_map.mp member
    by_cases own : (old.id == id) = true
    · rw [if_pos own]
      exact ⟨checked.ids old among, below⟩
    · rw [if_neg own]
      exact ⟨checked.ids old among, checked.balances old among⟩
  exact ⟨fun a member => (kept a member).1, fun a member => (kept a member).2, checked.amounts⟩

theorem create_checked (a reply : Account) (later : Book) (created : b.create a = .ok (reply, later)) :
    later.Checked := by
  obtain ⟨positive, below, _, _, rfl⟩ := create_ok b a reply later created
  have every : ∀ other ∈ insertAccount a b.accounts, 1 ≤ other.id ∧ |other.balance.value| < 10 ^ 23 := by
    intro other member
    rcases (mem_insert a other b.accounts).mp member with rfl | old
    · exact ⟨positive, (below_limit _).mp below⟩
    · exact ⟨checked.ids other old, checked.balances other old⟩
  exact ⟨fun other member => (every other member).1, fun other member => (every other member).2, checked.amounts⟩

theorem credit_checked (id : AccountId) (amount : Decimal) (now : Stamp) (n : Nat) (later : Book)
    (credited : b.credit id amount now = .ok (n, later)) : later.Checked := by
  rcases credit_ok b id amount now n later credited with ⟨_, rfl⟩ | ⟨_, balance, _, _, below, _, rfl⟩
  · exact checked
  · exact update_checked b checked id balance now ((below_limit balance).mp below)

theorem append_checked (e : NewEntry) (entry : Entry) (later : Book) (appended : b.append e = .ok (entry, later)) :
    later.Checked := by
  obtain ⟨below, rfl, rfl⟩ := append_ok b e entry later appended
  refine ⟨checked.ids, checked.balances, ?_⟩
  intro x member
  rcases List.mem_append.mp member with old | new
  · exact checked.amounts x old
  · rw [List.mem_singleton.mp new]
    exact (below_limit e.amount).mp below

theorem debit_checked (id : AccountId) (amount : Decimal) (now : Stamp) (fine : ¬ b.Inflates (.debit id amount now)) :
    ∃ n later, b.debit id amount now = .ok (n, later) ∧ later.Checked := by
  rw [debit]
  cases found : b.account? id with
  | none => exact ⟨0, b, rfl, checked⟩
  | some a =>
      by_cases passes : amount.numLe a.balance = true
      · have enough := (Decimal.num_le _ _).mp passes
        have balance := checked.balances a (account_mem b id a found)
        suffices left : ∃ d, a.balance.sub? amount = some d ∧ |d.value| < 10 ^ 23 by
          obtain ⟨d, difference, below⟩ := left
          exact ⟨1, _, by simp only [if_pos passes, difference], update_checked b checked id d now below⟩
        by_cases negative : amount.value < 0
        · by_contra outgrown
          exact fine (.debit id amount now a found negative enough fun d difference below =>
            outgrown ⟨d, difference, below⟩)
        · obtain ⟨d, difference, least, most⟩ := Decimal.sub_covered a.balance amount (not_lt.mp negative) enough
          have below : |d.value| < 10 ^ 23 := by
            rw [abs_of_nonneg least]
            exact lt_of_le_of_lt most (lt_of_le_of_lt (le_abs_self _) balance)
          exact ⟨d, difference, below⟩
      · exact ⟨0, b, if_neg passes, checked⟩

theorem answer_checked (c : Call) (fine : ¬ b.Inflates c) : ∃ reply later, b.answer c = .ok (reply, later) ∧ later.Checked := by
  have written : ∀ {α : Type} (w : Written α), (∀ value later, w = .ok (value, later) → later.Checked) →
      ∃ reply later, b.written w = (reply, later) ∧ later.Checked := fun w kept =>
    ⟨_, _, rfl, written_after Checked b checked w kept _ _ rfl⟩
  cases c with
  | createAccount a =>
      obtain ⟨reply, later, done, kept⟩ := written (b.create a) (create_checked b checked a)
      exact ⟨reply, later, congrArg Except.ok done, kept⟩
  | credit id amount now =>
      obtain ⟨reply, later, done, kept⟩ := written (b.credit id amount now) (credit_checked b checked id amount now)
      exact ⟨reply, later, congrArg Except.ok done, kept⟩
  | append e =>
      obtain ⟨reply, later, done, kept⟩ := written (b.append e) (append_checked b checked e)
      exact ⟨reply, later, congrArg Except.ok done, kept⟩
  | debit id amount now =>
      obtain ⟨n, later, done, kept⟩ := debit_checked b checked id amount now fine
      exact ⟨.ok n, later, by simp only [answer, done]; rfl, kept⟩
  | getAccount id | listEntries id | begin | getAccounts ids | commit | rollback => exact ⟨_, b, rfl, checked⟩

end Writes

theorem inflated_answer (b : Book) (c : Call) (inflates : b.Inflates c) :
    (∃ e, b.answer c = .error e) ∨
      ∃ id amount now later, c = .debit id amount now ∧ b.debit id amount now = .ok (1, later) ∧ ¬ later.Checked := by
  cases inflates with
  | debit id amount now a found negative passes outgrown =>
      have enough := (Decimal.num_le _ _).mpr passes
      cases difference : a.balance.sub? amount with
      | none =>
          refine .inl ⟨.decimalSubtraction, ?_⟩
          simp only [answer, debit, found, if_pos enough, difference]
          rfl
      | some d =>
          have done : b.debit id amount now =
              .ok (1, b.update id fun a => { a with balance := d, modified := now }) := by
            simp only [debit, found, if_pos enough, difference]
          refine .inr ⟨id, amount, now, _, rfl, done, ?_⟩
          intro checked
          have own := account_id b id a found
          have member : (⟨a.id, d, a.created, now⟩ : Account) ∈
              (b.update id fun a => { a with balance := d, modified := now }).accounts :=
            List.mem_map.mpr ⟨a, account_mem b id a found, if_pos (by simpa using own)⟩
          have below := checked.balances ⟨a.id, d, a.created, now⟩ member
          exact outgrown d difference below

theorem answer_numbers (b : Book) (c : Call) (reply : Except StoreError c.Reply) (later : Book)
    (answered : b.answer c = .ok (reply, later)) : later.lastEntry ≤ b.lastEntry + 1 := by
  refine answer_after (fun later => later.lastEntry ≤ b.lastEntry + 1) b (Nat.le_succ _) ?_ ?_ ?_ ?_ c reply later answered
  · intro a account after created
    obtain ⟨_, _, _, _, rfl⟩ := create_ok b a account after created
    exact Nat.le_succ _
  · intro id amount now n after debited
    rcases debit_ok b id amount now n after debited with ⟨_, rfl⟩ | ⟨_, _, _, _, _, _, rfl⟩ <;> exact Nat.le_succ _
  · intro id amount now n after credited
    rcases credit_ok b id amount now n after credited with ⟨_, rfl⟩ | ⟨_, _, _, _, _, _, rfl⟩ <;> exact Nat.le_succ _
  · intro e entry after appended
    obtain ⟨_, _, rfl⟩ := append_ok b e entry after appended
    exact Nat.le_refl _

end DoubleEntry.Book
