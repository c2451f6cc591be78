import DoubleEntry.Proofs.Amount.Rounding
import DoubleEntry.Proofs.Ledger.Verdict

/-!
What an account holds can be spent. Rounding takes no amount above a balance, so only more than there is comes to too
little; and where nothing is made to fail, all that there is can be moved to wherever there is room for it.
-/

set_option autoImplicit false

namespace DoubleEntry

open Time (Stamp)

namespace Book

section Rounding

variable (d : Decimal) (a : Account) (money : a.balance.IsMoney) (nonneg : 0 ≤ a.balance.value)

include money nonneg

theorem balance_rounds : (Amount.round a.balance).value = a.balance.value := by
  have rounded := (Amount.round_small a.balance money.below).2.2
  rw [Amount.nearest_short a.balance (Nat.le_of_eq money.scale), abs_of_nonneg nonneg,
    abs_of_nonneg (Decimal.round_nonneg a.balance nonneg)] at rounded
  exact rounded

theorem round_covered (covered : d.value ≤ a.balance.value) : (Amount.round d).value ≤ a.balance.value := by
  have rounded := Amount.round_mono d a.balance covered
  rwa [balance_rounds a money nonneg] at rounded

theorem round_whole (whole : d.value = a.balance.value) : (Amount.round d).value = a.balance.value := by
  have least := Amount.round_mono a.balance d (le_of_eq whole.symm)
  rw [balance_rounds a money nonneg] at least
  exact le_antisymm (round_covered d a money nonneg (le_of_eq whole)) least

end Rounding

section Moved

variable (b later : Book) (t : Transfer) (now : Stamp) (moved : b.Moved t now later) (a : Account)

include moved

theorem moved_account (id : AccountId) (found : b.account? id = some a) : ∃ x, later.account? id = some x ∧
    (id = t.source → x.balance.value = a.balance.value - (Amount.round t.amount).value) ∧
    (id = t.destination → id ≠ t.source → x.balance.value = a.balance.value + (Amount.round t.amount).value) := by
  obtain ⟨reduced, raised, less, more, accounts⟩ := moved.accounts
  have own := account_id b id a found
  have held := b.held_account id a found
  have kept : ∀ x : Account, (if x.id = t.source then { x with balance := reduced, modified := now }
      else if x.id = t.destination then { x with balance := raised, modified := now } else x).id = x.id := by
    intro x
    split
    · rfl
    · split <;> rfl
  have looked : later.account? id = some (if a.id = t.source then { a with balance := reduced, modified := now }
      else if a.id = t.destination then { a with balance := raised, modified := now } else a) := by
    rw [account?] at found
    rw [account?, accounts, List.find?_map]
    simp only [Function.comp_def, kept, found, Option.map_some]
  refine ⟨_, looked, ?_, ?_⟩
  · intro source
    rw [if_pos (own.trans source), less, ← source, held]
  · intro destination apart
    rw [if_neg (own.symm ▸ apart), if_pos (own.trans destination), more, ← destination, held]

end Moved
end Book

namespace Ledger

theorem first_among (checks : List (Option LedgerError)) (e : LedgerError) (first : firstOf checks = .error e) :
    some e ∈ checks := by
  rw [firstOf] at first
  cases found : checks.findSome? id with
  | none =>
      rw [found] at first
      cases first
  | some own =>
      rw [found] at first
      cases first
      obtain ⟨check, among, rfl⟩ := List.exists_of_findSome?_eq_some found
      exact among

theorem first_none (checks : List (Option LedgerError)) (passed : ∀ check ∈ checks, check = none) :
    firstOf checks = .ok () := by
  cases first : firstOf checks with
  | ok _ => rfl
  | error e => cases passed _ (first_among checks e first)

theorem fault_not_short (faults : Control) (context step : String) (point : FailPoint) (id : AccountId) :
    faultAt faults context step point ≠ some (.insufficientFunds id) := by
  intro short
  rw [faultAt] at short
  split at short
  · cases short
  · cases short

section Transfers

variable (faults : Control) (book : Book) (t : Transfer)

theorem short_held (id : AccountId) (first : firstOf (transferChecks faults book t) = .error (.insufficientFunds id)) :
    book.held t.source < (Amount.round t.amount).value := by
  have among := first_among _ _ first
  by_contra covered
  simp [transferChecks, unitChecks, workChecks, covered, (fault_not_short _ _ _ _ _).symm, failedAt] at among

theorem covered_not_short (tidy : book.Tidy) (a : Account) (found : book.account? t.source = some a)
    (covered : t.amount.value ≤ a.balance.value) (now : Stamp) (outcome : Outcome) (later : Book)
    (decided : Decided (transferChecks faults book t) now book t outcome later) (id : AccountId) :
    outcome.error? ≠ some (.insufficientFunds id) := by
  intro failed
  obtain ⟨money, nonneg⟩ := tidy.money a (Book.account_mem book _ a found)
  rw [decided.told] at failed
  cases first : firstOf (transferChecks faults book t) with
  | ok _ =>
      rw [first] at failed
      cases failed
  | error e =>
      rw [first] at failed
      cases failed
      have less := short_held faults book t id first
      rw [book.held_account _ a found] at less
      exact absurd (Book.round_covered t.amount a money nonneg covered) (not_le.mpr less)

theorem solo_not_short (tidy : book.Tidy) (a : Account) (found : book.account? t.source = some a)
    (covered : t.amount.value ≤ a.balance.value) (now : Stamp) (outcome : Outcome) (later : Book)
    (answered : ((Operation.createTransfer t).task none).body.solo now none book = .ok (outcome, later)) (id : AccountId) :
    outcome.error? ≠ some (.insufficientFunds id) := by
  obtain ⟨x, tried, decided⟩ := transfer_trial .quiet now book t tidy []
  rw [Program.trial_solo .quiet now (Control.calm_passes _ rfl) _ none book [] x tried] at answered
  cases answered
  exact covered_not_short .quiet book t tidy a found covered now x.answer x.book decided id

theorem whole_passes (calm : faults.faults = []) (different : t.source ≠ t.destination) (nonneg : 0 ≤ t.amount.value)
    (a b : Account) (source : book.account? t.source = some a) (destination : book.account? t.destination = some b)
    (covered : (Amount.round t.amount).value ≤ a.balance.value)
    (room : b.balance.value + (Amount.round t.amount).value < 10 ^ 23) :
    firstOf (transferChecks faults book t) = .ok () := by
  apply first_none
  simp [transferChecks, unitChecks, workChecks, faultAt, calm, source, destination, Book.held, different, nonneg, covered,
    room]

end Transfers
end Ledger
end DoubleEntry
