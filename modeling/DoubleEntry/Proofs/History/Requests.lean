import DoubleEntry.Proofs.History.Books
import DoubleEntry.Proofs.Ledger.Length
import DoubleEntry.Proofs.Ledger.Trial
import DoubleEntry.Proofs.Store.Lone
import DoubleEntry.Proofs.Store.Mirror

/-!
Requests against the operations behind them. Sent to a store that nobody else uses, with any trouble injected there,
a request is answered; it does to the books what its operation does there, and tells by its status whether that
was anything.
-/

set_option autoImplicit false

namespace DoubleEntry

open Ledger (Operation Outcome)
open Session (Answer)
open Time (Stamp)

def Demand.executed (limit : Option Nat) (s : Store) (more : Nat) (d : Demand) : Option (List (Answer × Nat)) × Store :=
  System.run Answer.refused (s.now + 7 * s.control.latency + more) s [.task (d.task limit)]

def Ledger.Operation.found? (book : Book) : Operation → Option Outcome
  | getBalance id => some (.account (Ledger.balanceIn book id))
  | listEntries id => some (.entries (Ledger.entriesIn book id))
  | createAccount _ | createTransfer _ => none

-- How an operation fares on a store, for all trouble that there may be.
inductive Executed (s : Store) (o : Operation) (outcome : Outcome) (later : Book) : Prop
  | wrote (write : o.isRead = false) (success : outcome.error? = none)
      (alone : (Demand.operation o).alone s.clock s.committed = (.outcome outcome, later)) : Executed s o outcome later
  | read (found : o.found? s.committed = some outcome) (same : later = s.committed) : Executed s o outcome later
  | failed (e : LedgerError) (error : outcome.error? = some e) (same : later = s.committed) : Executed s o outcome later

namespace Http

def retold (r : Request) (o : Operation) : Answer → Answer
  | .outcome outcome => .response (decorate r (responseTo o outcome))
  | a => a

theorem request_mirrors (limit : Option Nat) (r : Request) (o : Operation) (asks : operation? r = some o) :
    ((Demand.operation o).task limit).Mirrors (retold r o) ((Demand.request r).task limit) := by
  have notOptions := asks_not_options r o asks
  have serves := (dispatch_serves limit r notOptions).1
  rw [asks] at serves
  rw [Demand.task, Demand.task, handle, if_neg (by simp [notOptions])]
  generalize dispatch limit r = t at serves
  cases serves with
  | through o t wrap handler succeeded whole _ closes agrees =>
      rw [whole]
      refine task_mirrors_log _ _ (((t.bind (respond handler)).map (decorate r)).map Answer.response) _ ?_
      simp only [Task.map, Task.bind_bind]
      refine task_mirrors_bind _ t _ _ fun a => ⟨.outcome (wrap a), .done _, ?_⟩
      rw [retold, ← agrees]
      exact Program.closes_bind _ _ _ _
        (Program.closes_bind _ _ _ _ (respond_closes handler succeeded closes a) (.done _))
        (.done _)

inductive Posts (r : Request) : Operation → Prop
  | account (input : NewAccount) (route : Route.ofPath? r.path = some .accounts)
      (decoded : decodeAccount r = .ok input) : Posts r (.createAccount input)
  | transfer (input : Transfer) (route : Route.ofPath? r.path = some .transactions)
      (decoded : decodeTransfer r = .ok input) : Posts r (.createTransfer input)

theorem asked_posts (r : Request) (o : Operation) (asks : operation? r = some o) (write : o.isRead = false) :
    r.method = "POST" ∧ Posts r o := by
  refine ⟨(dispatch_serves none r (asks_not_options r o asks)).2 o asks write, ?_⟩
  have notOptions := asks_not_options r o asks
  simp only [operation?, notOptions, Bool.false_eq_true, if_false] at asks
  cases found : Route.ofPath? r.path with
  | none =>
      rw [found] at asks
      cases asks
  | some route =>
      simp only [found] at asks
      by_cases admitted : route.admits r.method = true
      · simp only [admitted, Bool.not_true, Bool.false_eq_true, if_false] at asks
        cases route with
        | health => cases asks
        | accounts =>
            cases decoded : decodeAccount r with
            | error e =>
                rw [decoded] at asks
                cases asks
            | ok input =>
                rw [decoded] at asks
                cases asks
                exact .account input found decoded
        | transactions =>
            cases decoded : decodeTransfer r with
            | error e =>
                rw [decoded] at asks
                cases asks
            | ok input =>
                rw [decoded] at asks
                cases asks
                exact .transfer input found decoded
        | balance raw | entries raw =>
            obtain ⟨id, _, rfl⟩ := Option.map_eq_some_iff.mp asks
            cases write
      · simp only [eq_false_of_ne_true admitted, Bool.not_false, if_true] at asks
        cases asks

section Requests

variable (limit : Option Nat) (s : Store) (more : Nat) (r : Request)

theorem retold_request (o : Operation) (asks : operation? r = some o) (outcome : Outcome) (time : Nat) (after : Store)
    (ran : (Demand.operation o).executed limit s more = (some [(.outcome outcome, time)], after)) :
    ∃ log, (Demand.request r).executed limit s more =
      (some [(.response (decorate r (responseTo o outcome)), time)], after.relog log) := by
  obtain ⟨answers, log, store⟩ := schedule_mirrors (retold r o) Answer.refused Answer.refused (fun _ => rfl)
    (s.now + 7 * s.control.latency + more) s [_] [_] (.cons (request_mirrors limit r o asks) .nil)
  change ((Demand.request r).executed limit s more).1 = ((Demand.operation o).executed limit s more).1.map _ at answers
  change ((Demand.request r).executed limit s more).2 = ((Demand.operation o).executed limit s more).2.relog log at store
  rw [ran] at answers store
  exact ⟨log, Prod.ext answers store⟩

end Requests

end Http
/-- What is so of the program of an operation, and passes on to programs that make the same calls, is so of every demand. -/
theorem demand_inherits (Q : (α : Type) → Program α → Prop) (closing : ∀ (α : Type) (p : Program α) a, p.Closes a → Q α p)
    (passes : ∀ (α β : Type) (g : α → β) (p : Program α) (q : Program β), p.Mirrors g q → Q α p → Q β q)
    (limit : Option Nat) (d : Demand) (own : ∀ o, d.operation? = some o → Q Outcome (o.task limit).body) :
    Q Answer (d.task limit).body := by
  cases asks : d.operation? with
  | none =>
      obtain ⟨a, closes⟩ := demand_at_once d asks
      rw [demand_body]
      exact closing _ _ a closes
  | some o =>
      have told := Program.mirrors_then Answer.outcome (o.task limit).body (fun outcome => .done (.outcome outcome))
        fun outcome => .done _
      have operation := passes _ _ Answer.outcome _ _ told (own o asks)
      cases d with
      | operation same =>
          cases asks
          exact operation
      | request r => exact passes _ _ _ _ _ (Http.request_mirrors limit r o asks).body operation

end DoubleEntry
