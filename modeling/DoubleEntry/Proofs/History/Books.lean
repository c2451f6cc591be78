import DoubleEntry.Proofs.History.Serial
import DoubleEntry.Proofs.Ledger.Posting
import Mathlib

/-!
What histories do to the books. An event changes them only if it is the turn in which an operation succeeds, and
then by that operation's writes. So books that are balanced stay so.
-/

set_option autoImplicit false

namespace DoubleEntry.History

open Time (Stamp)

variable (start : Store) (events : List Event)

def successes : List Record := (run start events).records.filter Record.tookEffect

def books : Book := (run start events).system.store.committed

inductive Changed (e : Event) : Prop
  | kept (same : books start (events ++ [e]) = books start events)
      (records : successes start (events ++ [e]) = successes start events)
  | wrote (r : Record) (now : Stamp) (o : Ledger.Operation) (asks : r.demand.operation? = some o)
      (records : successes start (events ++ [e]) = successes start events ++ [r])
      (writes : Ledger.Writes now (books start events) (books start (events ++ [e])) o)

theorem run_changed (e : Event) : Changed start events e := by
  obtain ⟨here, next⟩ := store_around start events e
  cases run_added start events e with
  | nothing records same => exact .kept same (congrArg (List.filter Record.tookEffect) records)
  | record r now records ended answered _ =>
      have filtered : successes start (events ++ [e]) =
          successes start events ++ [r].filter Record.tookEffect := by
        rw [successes, records, List.filter_append]
        rfl
      cases effect : r.tookEffect with
      | false =>
          have idle := answered.idle effect
          rw [ended, here, next] at idle
          refine .kept idle ?_
          rw [filtered, List.filter_cons_of_neg (by simp [effect]), List.filter_nil, List.append_nil]
      | true =>
          have alone := answered.alone (success_no_trouble r effect)
          rw [ended, here, next] at alone
          rcases demand_effect r.demand now _ _ _ alone with ⟨o, asks, _, _, writes⟩ | ⟨noEffect, _⟩
          · refine .wrote r now o asks ?_ writes
            rw [filtered, List.filter_cons_of_pos effect, List.filter_nil]
          · rw [Record.tookEffect, noEffect] at effect
            cases effect

-- A failing commit leaves the books as they were.
example : books Store.empty [.control fun _ => ⟨[.commit], 0⟩, .ask none (.operation (.createAccount ⟨1, .zero⟩)),
    .poll 0] = Book.empty := by rfl

theorem run_balanced (balanced : start.committed.Balanced) : (books start events).Balanced := by
  induction events using List.reverseRecOn with
  | nil => exact balanced
  | append_singleton events e ih =>
      cases run_changed start events e with
      | kept same _ =>
          rw [same]
          exact ih
      | wrote r now o _ _ writes => exact Ledger.writes_balanced now _ _ ih o writes

-- The double-entry invariant: at every moment of every history from the empty store.
theorem books_always_balance (moment : Nat) : (storeAt Store.empty events moment).committed.Balanced :=
  run_balanced Store.empty (events.take moment) Book.empty_balanced

end DoubleEntry.History
