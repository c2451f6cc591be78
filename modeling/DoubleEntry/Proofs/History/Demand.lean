import DoubleEntry.Proofs.Http.Conduct
import DoubleEntry.Proofs.Ledger.Effect
import DoubleEntry.Proofs.Store.Alone
import DoubleEntry.Session

/-!
What can be asked of the ledger: an operation, directly or by a request over HTTP. Both are orderly programs, and
what a demand does alone is what its operation does.
-/

set_option autoImplicit false

namespace DoubleEntry

open Ledger (Operation)
open Session (Answer)
open Time (Stamp)

namespace Session.Answer

def isSuccess : Answer → Bool
  | outcome o => o.error?.isNone
  | response r => decide (r.status < 300)
  | _ => false

-- Answers that say nothing about the accounts.
def isTrouble : Answer → Bool
  | outcome o => o.error?.any LedgerError.isTrouble
  | response r => decide (500 ≤ r.status)
  | refused _ => true
  | _ => false

end Session.Answer

inductive Demand where
  | operation (o : Operation)
  | request (r : Http.Request)

namespace Demand

def task (limit : Option Nat) : Demand → Task Answer
  | operation o => (o.task limit).map .outcome
  | request r => (Http.handle limit r).map .response

def operation? : Demand → Option Operation
  | operation o => some o
  | request r => Http.operation? r

def shows (o : Operation) (outcome : Ledger.Outcome) : Demand → Answer
  | operation _ => .outcome outcome
  | request r => .response (Http.decorate r (Http.responseTo o outcome))

def isWrite (d : Demand) : Bool := d.operation?.any fun o => !o.isRead

end Demand

-- A store with nothing going on.
def Store.resting (now : Stamp) (book : Book) : Store := { Store.empty with committed := book, clock := now }

def Demand.alone (now : Stamp) (book : Book) (d : Demand) : Answer × Book :=
  match Process.start Answer.refused 0 (Store.resting now book) (.task (d.task none)) with
  | (.finished a _, s) => (a, s.committed)
  | (_, s) => (.blocked, s.committed)

section Demands

variable (d : Demand)

theorem demand_body (limit : Option Nat) : (d.task limit).body = (d.task none).body := by
  cases d with
  | operation o => exact congrArg (Program.bind · _) (Ledger.operation_body limit none o)
  | request r => exact congrArg (Program.bind · _) (Http.handle_body limit none r)

theorem demand_orderly (limit : Option Nat) :
    (d.task limit).Orderly fun a => d.isWrite = true ∧ a.isTrouble = true := by
  cases d with
  | operation o =>
      refine task_orderly_map _ _ _ ?_ _ (Ledger.operation_orderly limit o)
      rintro outcome ⟨write, trouble⟩
      exact ⟨by simp [Demand.isWrite, Demand.operation?, write], trouble⟩
  | request r =>
      refine task_orderly_map _ _ _ ?_ _ (Http.handle_orderly limit r)
      rintro response ⟨⟨o, asks, write⟩, status⟩
      exact ⟨by simp [Demand.isWrite, Demand.operation?, asks, write], decide_eq_true status⟩

theorem demand_at_once (asks : d.operation? = none) : ∃ a, (d.task none).body.Closes a := by
  cases d with
  | operation o => cases asks
  | request r =>
      obtain ⟨response, closes, _⟩ := Http.handle_at_once none r asks
      exact ⟨_, Program.closes_bind _ _ response _ closes (.done _)⟩

theorem demand_closes (o : Operation) (asks : d.operation? = some o) (a : Answer)
    (closes : (d.task none).body.Closes a) : ∃ e, o.rejection? = some e := by
  have operationCloses : ∃ outcome, (o.task none).body.Closes outcome := by
    cases d with
    | operation same =>
        cases asks
        exact Program.bind_closes _ _ a closes
    | request r =>
        obtain ⟨response, closesHandling⟩ := Program.bind_closes _ _ a closes
        exact Http.handle_closes none r o asks response closesHandling
  obtain ⟨outcome, closesOutcome⟩ := operationCloses
  cases rejected : o.rejection? with
  | some e => exact ⟨e, rfl⟩
  | none => exact absurd closesOutcome (Ledger.accepted_calls none o rejected outcome)

variable (now : Stamp) (book : Book)

theorem demand_solo (o : Operation) (asks : d.operation? = some o) :
    (d.task none).body.solo now none book =
      ((o.task none).body.solo now none book).map fun (outcome, later) => (d.shows o outcome, later) := by
  cases d with
  | operation same =>
      cases asks
      exact Program.solo_bind now (o.task none).body _ Answer.outcome none book fun _ => .done _
  | request r =>
      have told := Program.solo_bind now (Http.handle none r).body _ Answer.response none book fun _ => .done _
      apply told.trans
      rw [Http.handle_solo now book none r o asks]
      cases (o.task none).body.solo now none book <;> rfl

theorem shows_success (o : Operation) (outcome : Ledger.Outcome) :
    (d.shows o outcome).isSuccess = outcome.error?.isNone := by
  cases d with
  | operation same => rfl
  | request r =>
      simp only [Demand.shows, Session.Answer.isSuccess, Http.decorate]
      cases failed : outcome.error? with
      | some e =>
          have range := Http.ledger_error_range e
          rw [Http.failed_response o outcome e failed, Option.isNone_some, decide_eq_false_iff_not]
          omega
      | none =>
          rw [Option.isNone_none, decide_eq_true_eq]
          exact Http.success_response o outcome failed

theorem demand_effect (answer : Answer) (later : Book)
    (result : (d.task none).body.solo now none book = .ok (answer, later)) :
    (∃ o, d.operation? = some o ∧ d.isWrite = true ∧ answer.isSuccess = true ∧ Ledger.Writes now book later o) ∨
      (d.isWrite && answer.isSuccess) = false ∧ later = book := by
  cases asks : d.operation? with
  | none =>
      obtain ⟨a, closes⟩ := demand_at_once d asks
      rw [Program.solo_closes now _ a none book closes] at result
      cases result
      exact .inr ⟨by simp [Demand.isWrite, asks], rfl⟩
  | some o =>
      rw [demand_solo d now book o asks] at result
      cases alone : (o.task none).body.solo now none book with
      | error e =>
          rw [alone] at result
          cases result
      | ok done =>
          obtain ⟨outcome, after⟩ := done
          rw [alone] at result
          cases result
          have writes : d.isWrite = !o.isRead := by simp [Demand.isWrite, asks]
          rcases Ledger.operation_effect now book later o outcome alone with
            ⟨write, fine, effect⟩ | ⟨failed, kept⟩
          · have success := shows_success d o outcome
            exact .inl ⟨o, rfl, by rw [writes, write]; rfl, by rw [success, fine]; rfl, effect⟩
          · refine .inr ⟨?_, kept⟩
            rcases failed with read | failed
            · rw [writes, read]
              rfl
            · cases write : o.isRead with
              | true =>
                  rw [writes, write]
                  rfl
              | false =>
                  rw [writes, write, shows_success d o outcome]
                  simpa using failed

end Demands

theorem alone_of_solo (d : Demand) (now : Stamp) (book : Book) (answer : Answer) (later : Book)
    (result : (d.task none).body.solo now none book = .ok (answer, later)) : d.alone now book = (answer, later) := by
  have resting : (Store.resting now book).Undisturbed 0 := ⟨⟨rfl, .inl rfl⟩, rfl⟩
  obtain ⟨left, after, ran, committed⟩ :=
    undisturbed_run 0 (d.task none).body none (Store.resting now book) answer later resting result
  have closed : (Process.close after none left).committed = later := by
    cases left with
    | none => exact committed
    | some book => exact (Store.release_committed after).trans committed
  unfold Demand.alone Process.start Process.resume
  simp only [ran, Process.stopped, closed]

end DoubleEntry
