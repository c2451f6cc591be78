import DoubleEntry.Proofs.History.Deadline
import DoubleEntry.Proofs.History.Requests
import DoubleEntry.Proofs.Ledger.Opening

/-!
Transfers and new accounts on the books of any history: each has exactly one outcome, whatever fails in the store, and it
is the one that its checks decide.
-/

set_option autoImplicit false

namespace DoubleEntry

open Ledger (Operation Outcome Decided transferChecks Opens accountChecks)
open Session (Answer)
open Time (Stamp)

theorem executed_in_time (o : Operation) (write : o.isRead = false) (limit : Option Nat) (s : Store) (more : Nat)
    (idle : s.owner = none ∧ s.queue = []) (x : Tried Outcome)
    (worked : (o.task none).body.trial s.control s.clock none s.committed s.log = .ok x) :
    (∃ time log, (Demand.operation o).executed limit s more =
      (some [(.outcome x.answer, time)], s.leftAt x.book time log)) ∨
    limit ≠ none ∧ ∃ time log, (Demand.operation o).executed limit s more =
      (some [(.outcome (o.failed (.timeout o.name)), time)], s.leftAt s.committed time log) := by
  obtain ⟨few, log, tried⟩ := operation_tried o s x worked
  have waits : s.now + x.calls * s.control.latency ≤ s.now + 7 * s.control.latency + more := by
    have calls := Nat.mul_le_mul_right s.control.latency few
    omega
  rcases operation_comes_out o write s limit _ tried idle few _ (.inl waits) with ⟨_, ran⟩ | ⟨n, left, set, _, ran⟩
  · exact .inl ⟨_, _, ran⟩
  · exact .inr ⟨by rw [set]; exact Option.some_ne_none n, _, left, ran⟩

theorem executed_tried (o : Operation) (write : o.isRead = false) (s : Store) (more : Nat)
    (idle : s.owner = none ∧ s.queue = []) (x : Tried Outcome)
    (worked : (o.task none).body.trial s.control s.clock none s.committed s.log = .ok x) :
    ∃ time after, (Demand.operation o).executed none s more = (some [(.outcome x.answer, time)], after) ∧
      after.committed = x.book := by
  rcases executed_in_time o write none s more idle x worked with ⟨time, log, ran⟩ | ⟨limited, _⟩
  · exact ⟨time, _, ran, rfl⟩
  · exact absurd rfl limited

/-- A transfer that is executed alone ends as its checks decide: on the books of any history, with any faults and
latency, and however long one waits beyond the time that seven calls take. -/
theorem transfers_end_as_decided (events : List Event) (control : Control) (now : Nat) (clock : Stamp) (more : Nat)
    (t : Transfer) :
    let book := History.books Store.empty events
    let s : Store := { Store.resting clock book with control, now }
    ∃ outcome time after, (Demand.operation (.createTransfer t)).executed none s more =
        (some [(.outcome outcome, time)], after) ∧
      Decided (transferChecks control book t) clock book t outcome after.committed := by
  intro book s
  have tidy := Book.balanced_tidy book (History.run_balanced Store.empty events Book.empty_balanced)
  obtain ⟨x, worked, decided⟩ := Ledger.transfer_trial s.control s.clock book t tidy s.log
  obtain ⟨time, after, ran, committed⟩ := executed_tried (.createTransfer t) rfl s more ⟨rfl, rfl⟩ x worked
  rw [← committed] at decided
  exact ⟨_, time, after, ran, decided⟩

/-- A new account that is asked for alone is opened, or refused, as its checks decide: on the books of any history, with
any faults and latency. It is refused as too large exactly if more is asked for than can be stored, rounded or not. -/
theorem openings_end_as_decided (events : List Event) (control : Control) (now : Nat) (clock : Stamp) (more : Nat)
    (input : NewAccount) :
    let book := History.books Store.empty events
    let s : Store := { Store.resting clock book with control, now }
    (∃ outcome time after, (Demand.operation (.createAccount input)).executed none s more =
        (some [(.outcome outcome, time)], after) ∧
      Opens (accountChecks control book input) clock book input outcome after.committed) ∧
    (10 ^ 23 ≤ (Amount.round input.initialBalance).value ↔ 10 ^ 23 ≤ input.initialBalance.value) := by
  intro book s
  obtain ⟨x, worked, opens⟩ := Ledger.account_trial clock book input s.control s.log
  obtain ⟨time, after, ran, committed⟩ := executed_tried (.createAccount input) rfl s more ⟨rfl, rfl⟩ x worked
  rw [← committed] at opens
  exact ⟨⟨_, time, after, ran, opens⟩, Amount.round_reaches _⟩

end DoubleEntry
