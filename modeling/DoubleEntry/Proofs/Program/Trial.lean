import DoubleEntry.Proofs.Program.Always
import DoubleEntry.Proofs.Program.Length
import DoubleEntry.Proofs.Program.Solo
import DoubleEntry.Store.Control

/-!
What a program does by itself where calls can be made to fail: its answer, what is committed then, how many of its calls
pass the check for faults, and what it logs. Each of those calls takes the latency of the store, and nothing else takes
any time.
-/

set_option autoImplicit false

namespace DoubleEntry

open Time (Stamp)

structure Tried (α : Type) where
  answer : α
  book : Book
  calls : Nat
  -- The newest line first.
  log : List LogLine

namespace Tried

variable {α β : Type}

def map (f : α → β) (x : Tried α) : Tried β := { x with answer := f x.answer }

def counted (x : Tried α) : Tried α := { x with calls := x.calls + 1 }

end Tried

namespace Program

variable {α β : Type} (faults : Control) (now : Stamp)

-- A unit of work is over at its end, also when that fails.
def trial : Program α → Option Book → Book → List LogLine → Except ArithmeticError (Tried α)
  | .done a, _, committed, lines => .ok ⟨a, committed, 0, lines⟩
  | .log line rest, unit, committed, lines => rest.trial unit committed (line :: lines)
  | .clock next, unit, committed, lines => (next now).trial unit committed lines
  | .call c next, unit, committed, lines =>
    match faults.failure? c with
    | some e => (next (.error e)).trial (if c.isEnd then none else unit) committed lines
    | none =>
      match Book.serve unit committed c with
      | .ok (reply, unit, committed) => ((next reply).trial unit committed lines).map Tried.counted
      | .error e => .error e

section Calls

variable (c : Call) (next : Except StoreError c.Reply → Program α) (unit : Option Book) (committed : Book)
  (lines : List LogLine)

theorem trial_failed (e : StoreError) (fails : faults.failure? c = some e) :
    (call c next).trial faults now unit committed lines =
      (next (.error e)).trial faults now (if c.isEnd then none else unit) committed lines := by
  simp only [trial, fails]

theorem trial_served (passes : faults.failure? c = none) (reply : Except StoreError c.Reply) (after : Option Book)
    (later : Book) (served : Book.serve unit committed c = .ok (reply, after, later)) :
    (call c next).trial faults now unit committed lines =
      ((next reply).trial faults now after later lines).map Tried.counted := by
  simp only [trial, passes, served]

theorem trial_passed (passes : faults.failure? c = none) (x : Tried α)
    (tried : (call c next).trial faults now unit committed lines = .ok x) :
    ∃ reply after later y, Book.serve unit committed c = .ok (reply, after, later) ∧
      (next reply).trial faults now after later lines = .ok y ∧ x = y.counted := by
  cases served : Book.serve unit committed c with
  | error e =>
      simp only [trial, passes, served] at tried
      cases tried
  | ok result =>
      obtain ⟨reply, after, later⟩ := result
      rw [trial_served faults now c next unit committed lines passes reply after later served] at tried
      cases rest : (next reply).trial faults now after later lines with
      | error e =>
          rw [rest] at tried
          cases tried
      | ok y =>
          rw [rest] at tried
          cases tried
          exact ⟨reply, after, later, y, rfl, rest, rfl⟩

end Calls

theorem trial_closes (p : Program α) (a : α) (closes : p.Closes a) (unit : Option Book) (committed : Book)
    (before : List LogLine) : ∃ lines, p.trial faults now unit committed before = .ok ⟨a, committed, 0, lines⟩ := by
  induction closes generalizing before with
  | done a => exact ⟨before, rfl⟩
  | log line rest a _ ih => exact ih (line :: before)

theorem closes_unique (p : Program α) (a b : α) (first : p.Closes a) (second : p.Closes b) : a = b := by
  induction first with
  | done a =>
      cases second
      rfl
  | log line rest a _ ih =>
      cases second with
      | log _ _ _ closes => exact ih closes

theorem trial_closing (p : Program α) (f : α → Program β) (g : α → β) (closing : ∀ a, (f a).Closes (g a))
    (unit : Option Book) (committed : Book) (before : List LogLine) (x : Tried α)
    (tried : p.trial faults now unit committed before = .ok x) :
    ∃ lines, (p.bind f).trial faults now unit committed before = .ok { x.map g with log := lines } := by
  induction p generalizing unit committed before x with
  | done a =>
      cases tried
      exact trial_closes faults now (f a) (g a) (closing a) unit committed before
  | log line rest ih => exact ih unit committed (line :: before) x tried
  | clock next ih => exact ih now unit committed before x tried
  | call c next ih =>
      cases fails : faults.failure? c with
      | some e =>
          rw [trial_failed faults now c next unit committed before e fails] at tried
          obtain ⟨lines, ended⟩ := ih (.error e) _ _ before x tried
          exact ⟨lines, by rw [bind, trial_failed faults now c _ unit committed before e fails, ended]⟩
      | none =>
          obtain ⟨reply, after, later, y, served, triedRest, rfl⟩ :=
            trial_passed faults now c next unit committed before fails x tried
          obtain ⟨lines, ended⟩ := ih reply after later before y triedRest
          refine ⟨lines, ?_⟩
          rw [bind, trial_served faults now c _ unit committed before fails reply after later served, ended]
          rfl

theorem trial_within (n : Nat) (p : Program α) (within : p.Within n) (unit : Option Book) (committed : Book)
    (before : List LogLine) (x : Tried α) (tried : p.trial faults now unit committed before = .ok x) : x.calls ≤ n := by
  induction within generalizing unit committed before x with
  | done n a =>
      cases tried
      exact Nat.zero_le n
  | log n line rest _ ih => exact ih unit committed (line :: before) x tried
  | clock n next _ ih => exact ih now unit committed before x tried
  | call n c next _ ih =>
      cases fails : faults.failure? c with
      | some e =>
          rw [trial_failed faults now c next unit committed before e fails] at tried
          exact Nat.le_succ_of_le (ih (.error e) _ _ before x tried)
      | none =>
          obtain ⟨reply, after, later, y, _, triedRest, rfl⟩ :=
            trial_passed faults now c next unit committed before fails x tried
          exact Nat.succ_le_succ (ih reply after later before y triedRest)

theorem trial_always (panics : Prop) (P : α → Prop) (p : Program α) (always : p.Always panics P) (unit : Option Book)
    (committed : Book) (before : List LogLine) (x : Tried α)
    (tried : p.trial faults now unit committed before = .ok x) : P x.answer := by
  induction p generalizing unit committed before x with
  | done a =>
      cases tried
      exact always
  | log line rest ih => exact ih always unit committed (line :: before) x tried
  | clock next ih => exact ih now (always now) unit committed before x tried
  | call c next ih =>
      cases fails : faults.failure? c with
      | some e =>
          rw [trial_failed faults now c next unit committed before e fails] at tried
          exact ih (.error e) (always.2 _) _ _ before x tried
      | none =>
          obtain ⟨reply, after, later, y, _, triedRest, rfl⟩ :=
            trial_passed faults now c next unit committed before fails x tried
          exact ih reply (always.2 reply) after later before y triedRest

theorem trial_solo (passes : ∀ c, faults.failure? c = none) (p : Program α) (unit : Option Book) (committed : Book)
    (before : List LogLine) (x : Tried α) (tried : p.trial faults now unit committed before = .ok x) :
    p.solo now unit committed = .ok (x.answer, x.book) := by
  induction p generalizing unit committed before x with
  | done a =>
      cases tried
      rfl
  | log line rest ih => exact ih unit committed (line :: before) x tried
  | clock next ih => exact ih now unit committed before x tried
  | call c next ih =>
      obtain ⟨reply, after, later, y, served, triedRest, rfl⟩ :=
        trial_passed faults now c next unit committed before (passes c) x tried
      rw [solo_call now c next unit after committed later reply served]
      exact ih reply after later before y triedRest

-- A commit is the last call that is made.
def CommitsLast : Program α → Prop
  | .done _ => True
  | .log _ rest => rest.CommitsLast
  | .clock next => ∀ now, (next now).CommitsLast
  | .call c next => (c = .commit → ∀ reply, ∃ a, (next reply).Closes a) ∧ ∀ reply, (next reply).CommitsLast

theorem closes_commits_last (p : Program α) (a : α) (closes : p.Closes a) : p.CommitsLast := by
  induction closes with
  | done a => trivial
  | log line rest a _ ih => exact ih

theorem in_unit_commits_last (bad : α → Prop) (read : Bool) (p : Program α) (inside : p.InUnit bad read) :
    p.CommitsLast := by
  induction inside with
  | log read line rest _ ih => exact ih
  | clock next _ ih => exact ih
  | work read c next isWork _ _ ih =>
      refine ⟨?_, ih⟩
      rintro rfl
      cases isWork
  | commit read next a closes failing =>
      have closing : ∀ reply, ∃ a, (next reply).Closes a := by
        intro reply
        cases reply with
        | ok _ => exact ⟨a, closes⟩
        | error e =>
            obtain ⟨b, _, closes⟩ := failing e
            exact ⟨b, closes⟩
      refine ⟨fun _ => closing, ?_⟩
      intro reply
      obtain ⟨b, closes⟩ := closing reply
      exact closes_commits_last _ b closes
  | rollback read next a closes =>
      exact ⟨Call.noConfusion, fun reply => closes_commits_last _ a (closes reply)⟩

theorem commits_last_closing (p : Program α) (f : α → Program β) (g : α → β) (closing : ∀ a, (f a).Closes (g a))
    (last : p.CommitsLast) : (p.bind f).CommitsLast := by
  induction p with
  | done a => exact closes_commits_last _ _ (closing a)
  | log line rest ih => exact ih last
  | clock next ih => exact fun now => ih now (last now)
  | call c next ih =>
      refine ⟨?_, fun reply => ih reply (last.2 reply)⟩
      intro commits reply
      obtain ⟨a, closes⟩ := last.1 commits reply
      exact ⟨g a, closes_bind _ f a (g a) closes (closing a)⟩

end Program
end DoubleEntry
