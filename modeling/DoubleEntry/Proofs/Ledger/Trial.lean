import DoubleEntry.Proofs.Decimal.Difference
import DoubleEntry.Proofs.Ledger.Posting
import DoubleEntry.Proofs.Ledger.Rejection
import DoubleEntry.Proofs.Program.Trial

/-!
Operations of the ledger where calls can be made to fail. A unit of work is its work on a book of its own, between a begin
and an end that can fail as well; what was written is committed if nothing went wrong, and is lost otherwise.
-/

set_option autoImplicit false

namespace DoubleEntry

open Time (Stamp)

variable {α : Type}

-- The work of a unit on a book of its own. Nothing of it is committed.
def Program.tryOn (faults : Control) (now : Stamp) :
    Program α → Book → List LogLine → Except ArithmeticError (Tried α)
  | .done a, b, lines => .ok ⟨a, b, 0, lines⟩
  | .log line rest, b, lines => rest.tryOn faults now b (line :: lines)
  | .clock next, b, lines => (next now).tryOn faults now b lines
  | .call c next, b, lines =>
    match faults.failure? c with
    | some e => (next (.error e)).tryOn faults now b lines
    | none =>
      match b.answer c with
      | .ok (reply, after) => ((next reply).tryOn faults now after lines).map Tried.counted
      | .error e => .error e

namespace Ledger

section Units

variable (faults : Control) (now : Stamp) (context : String) (committed : Book)

def settled (x : Tried (Result α)) : Tried (Result α) :=
  match x.answer with
  | .ok value =>
    match faults.failure? .commit with
    | some e => ⟨.error (failedAt context "commit transaction" e), committed, x.calls, x.log⟩
    | none => ⟨.ok value, x.book, x.calls + 1, x.log⟩
  | .error cause =>
    match faults.failure? .rollback with
    | some e => ⟨.error cause, committed, x.calls, rollbackFailed context e cause :: x.log⟩
    | none => ⟨.error cause, committed, x.calls + 1, x.log⟩

theorem settled_counted (x : Tried (Result α)) :
    settled faults context committed x.counted = (settled faults context committed x).counted := by
  unfold settled
  simp only [Tried.counted]
  cases x.answer with
  | ok value => cases faults.failure? .commit <;> rfl
  | error cause => cases faults.failure? .rollback <;> rfl

theorem settled_failed (x : Tried (Result α)) (e : LedgerError)
    (failed : (settled faults context committed x).answer = .error e) :
    (settled faults context committed x).book = committed := by
  unfold settled at failed ⊢
  cases answer : x.answer with
  | ok value =>
      simp only [answer] at failed ⊢
      cases fails : faults.failure? .commit with
      | some e => rfl
      | none =>
          rw [fails] at failed
          cases failed
  | error cause =>
      simp only
      cases faults.failure? .rollback <;> rfl

theorem trial_settled (read : Bool) (p : Program (Result α)) (works : Works read p) (unit : Book) (lines : List LogLine) :
    (p.bind (settle context)).trial faults now (some unit) committed lines =
      (p.tryOn faults now unit lines).map (settled faults context committed) := by
  induction works generalizing unit lines with
  | done read r =>
      cases r with
      | ok value =>
          simp only [Program.bind, settle, attempt, Program.trial, Program.tryOn, Except.map, settled, Book.serve]
          cases faults.failure? .commit <;> rfl
      | error cause =>
          simp only [Program.bind, settle, Program.trial, Program.tryOn, Except.map, settled, Book.serve]
          cases faults.failure? .rollback <;> rfl
  | log read line rest _ ih => exact ih unit (line :: lines)
  | clock next _ ih => exact ih now unit lines
  | call read c next isWork _ _ ih =>
      have goesOn : c.isEnd = false := (work_neither_reads_nor_ends c isWork).2
      cases fails : faults.failure? c with
      | some e =>
          rw [Program.bind, Program.trial_failed faults now c _ (some unit) committed lines e fails, goesOn,
            if_neg Bool.false_ne_true, ih]
          simp only [Program.tryOn, fails]
      | none =>
          simp only [Program.bind, Program.trial, Program.tryOn, fails, serve_work (some unit) committed c isWork,
            Option.getD_some]
          cases answered : unit.answer c with
          | error e => rfl
          | ok result =>
              simp only [Except.map]
              have rest := ih result.1 result.2 lines
              rw [rest]
              cases (next result.1).tryOn faults now result.2 lines with
              | error e => rfl
              | ok x => exact congrArg Except.ok (settled_counted faults context committed x).symm

def carried (lines : List LogLine) (x : Tried (Result α)) : Tried (Result α) :=
  match faults.failure? .begin with
  | some e => ⟨.error (failedAt context "begin transaction" e), committed, 0, lines⟩
  | none => (settled faults context committed x).counted

theorem carried_failed (lines : List LogLine) (x : Tried (Result α)) (e : LedgerError)
    (failed : (carried faults context committed lines x).answer = .error e) :
    (carried faults context committed lines x).book = committed := by
  unfold carried at failed ⊢
  cases fails : faults.failure? .begin with
  | some e => rfl
  | none =>
      rw [fails] at failed
      exact settled_failed faults context committed x e failed

theorem unit_trial (limit : Option Nat) (operation : String) (p : Program (Result α)) (line : α → LogLine)
    (wrap : Result α → Outcome) (works : Works false p) (lines : List LogLine) (x : Tried (Result α))
    (worked : p.tryOn faults now committed lines = .ok x) :
    ∃ log, (((bounded limit operation (inUnit context p)).bind (reported line)).map wrap).body.trial faults now none
      committed lines = .ok { (carried faults context committed lines x).map wrap with log } := by
  have unit : (inUnit context p).trial faults now none committed lines =
      .ok (carried faults context committed lines x) := by
    simp only [inUnit, attempt, Program.trial, carried, Book.serve]
    cases faults.failure? .begin with
    | some e => rfl
    | none =>
        simp only [trial_settled faults now context committed false p works committed lines, worked]
        rfl
  obtain ⟨reportedLines, closed⟩ := Program.trial_closing faults now (inUnit context p) (reported line) id
    (reported_closes line) none committed lines _ unit
  obtain ⟨log, wrapped⟩ := Program.trial_closing faults now _ (fun r => .done (wrap r)) wrap (fun r => .done (wrap r)) none
    committed lines _ closed
  exact ⟨log, wrapped⟩

end Units

section Refusals

variable (faults : Control) (now : Stamp) (book : Book)

-- Work that no arithmetic stops, whatever fails.
def NeverPanics (p : Program (Result α)) (book : Book) : Prop := ∀ lines, ∃ x, p.tryOn faults now book lines = .ok x

theorem attempt_never_panics (c : Call) (failed : StoreError → LedgerError) (next : c.Reply → Program (Result α))
    (answered : ∃ result, book.answer c = .ok result)
    (goes : ∀ reply mid, book.answer c = .ok (.ok reply, mid) → NeverPanics faults now (next reply) mid) :
    NeverPanics faults now (attempt c failed next) book := by
  intro lines
  obtain ⟨⟨reply, mid⟩, answer⟩ := answered
  cases fails : faults.failure? c with
  | some e => exact ⟨_, by simp only [attempt, Program.tryOn, fails]; rfl⟩
  | none =>
      cases reply with
      | error e => exact ⟨_, by simp only [attempt, Program.tryOn, fails, answer]; rfl⟩
      | ok value =>
          obtain ⟨x, tried⟩ := goes value mid answer lines
          exact ⟨x.counted, by simp only [attempt, Program.tryOn, fails, answer, tried]; rfl⟩

theorem debit_answers (id : AccountId) (amount : Decimal) (nonneg : 0 ≤ amount.value) :
    ∃ result, book.answer (.debit id amount now) = .ok result := by
  suffices debited : ∃ result, book.debit id amount now = .ok result by
    obtain ⟨result, debited⟩ := debited
    exact ⟨_, by simp only [Book.answer, debited]; rfl⟩
  rw [Book.debit]
  cases book.account? id with
  | none => exact ⟨_, rfl⟩
  | some a =>
      by_cases enough : amount.numLe a.balance = true
      · obtain ⟨d, difference, _⟩ := Decimal.sub_covered a.balance amount nonneg ((Decimal.num_le _ _).mp enough)
        exact ⟨_, by simp only [if_pos enough, difference]; rfl⟩
      · exact ⟨_, if_neg enough⟩

theorem move_funds_never_panics (context : String) (source destination : AccountId) (amount : Decimal)
    (nonneg : 0 ≤ amount.value) : NeverPanics faults now (moveFunds context source destination amount) book := by
  refine attempt_never_panics faults now book _ _ _ ⟨_, rfl⟩ fun found same looked => ?_
  cases looked
  by_cases missing : (book.accountsAmong [source, destination]).length < 2
  · rw [if_pos missing]
    exact fun lines => ⟨_, rfl⟩
  rw [if_neg missing]
  refine attempt_never_panics faults now book _ _ _ (debit_answers now book source amount nonneg) fun debited reduced _ => ?_
  by_cases short : debited = 0
  · rw [if_pos short]
    exact fun lines => ⟨_, rfl⟩
  rw [if_neg short]
  refine attempt_never_panics faults now reduced _ _ _ ⟨_, rfl⟩ fun credited raised _ => ?_
  by_cases lost : credited = 0
  · rw [if_pos lost]
    exact fun lines => ⟨_, rfl⟩
  rw [if_neg lost]
  refine attempt_never_panics faults now raised _ _ _ ⟨_, rfl⟩ fun _ mid _ => ?_
  exact attempt_never_panics faults now mid _ _ _ ⟨_, rfl⟩ fun _ later _ lines => ⟨_, rfl⟩

theorem insert_account_never_panics (context : String) (id : AccountId) (balance : Decimal) :
    NeverPanics faults now (insertAccount context id balance) book := by
  refine attempt_never_panics faults now book _ _ _ ⟨_, rfl⟩ fun account mid _ => ?_
  exact attempt_never_panics faults now mid _ _ _ ⟨_, rfl⟩ fun _ later _ lines => ⟨_, rfl⟩

end Refusals

-- A trial that tells of an error that lasts and leaves the books as they were, or of no error at all.
def Settles (book : Book) (x : Tried Outcome) : Prop :=
  ∀ e, x.answer.error? = some e → e.isRetryable = false ∧ x.book = book

theorem unit_settles (faults : Control) (now : Stamp) (book : Book) (lines : List LogLine) (operation context : String)
    (p : Program (Result α)) (line : α → LogLine) (wrap : Result α → Outcome)
    (told : ∀ r e, (wrap r).error? = some e → r = .error e) (works : Works false p) (found : p.Always True Found)
    (sound : NeverPanics faults now p book) :
    ∃ x, (((bounded none operation (inUnit context p)).bind (reported line)).map wrap).body.trial faults now none book
      lines = .ok x ∧ Settles book x := by
  obtain ⟨y, worked⟩ := sound lines
  obtain ⟨log, tried⟩ := unit_trial faults now context book none operation p line wrap works lines y worked
  have always := Program.always_bind True Found (fun outcome : Outcome => ∀ e, outcome.error? = some e → e.isFound = true)
    (fun r => .done (wrap r)) (fun r own e failed => own e (told r e failed)) _
    (bounded_found none operation context p line found)
  refine ⟨_, tried, ?_⟩
  intro e failed
  have lasting := Program.trial_always faults now True _ _ always none book lines _ tried e failed
  exact ⟨(found_error e lasting).2, carried_failed faults context book lines y e (told _ e failed)⟩

-- Under what name it is told that the deadline of an operation has passed.
def Operation.name : Operation → String
  | createAccount _ => "create account"
  | getBalance _ => "get balance"
  | createTransfer _ => "create transfer"
  | listEntries _ => "list entries"

inductive InOneUnit (o : Operation) : Prop
  | unit (α : Type) (context : String) (p : Program (Result α)) (line : α → LogLine) (wrap : Result α → Outcome)
      (task : ∀ limit, o.task limit = ((bounded limit o.name (inUnit context p)).bind (reported line)).map wrap)
      (works : Works false p) (found : p.Always True Found) (sound : ∀ faults now book, NeverPanics faults now p book)
      (failed : ∀ e, wrap (.error e) = o.failed e) (told : ∀ r e, (wrap r).error? = some e → r = .error e) : InOneUnit o

section Operations

variable (o : Operation) (write : o.isRead = false)

include write

theorem accepted_unit (accepted : o.rejection? = none) : InOneUnit o := by
  cases o with
  | getBalance id | listEntries id => cases write
  | createAccount input =>
      have task := fun limit => congrArg (Task.map Outcome.account) (accepted_account limit input accepted)
      refine .unit _ _ _ _ _ task (insert_account_works _ _ _) (insert_account_found _ _ _)
        (fun faults now book => insert_account_never_panics faults now book _ _ _) (fun _ => rfl) ?_
      rintro (_ | _) e ⟨⟩
      rfl
  | createTransfer input =>
      have nonneg := accepted_nonneg _ _ rfl accepted
      have task := fun limit => congrArg (Task.map Outcome.transfer) (accepted_transfer limit input accepted)
      refine .unit _ _ _ _ _ task (move_funds_works _ _ _ _) (move_funds_found _ _ _ _)
        (fun faults now book => move_funds_never_panics faults now book _ _ _ _ nonneg) (fun _ => rfl) ?_
      rintro (_ | _) e ⟨⟩
      rfl

theorem operation_settles (faults : Control) (now : Stamp) (book : Book) (lines : List LogLine) :
    ∃ x, (o.task none).body.trial faults now none book lines = .ok x ∧ Settles book x := by
  cases rejected : o.rejection? with
  | some e =>
      rw [rejected_task none o e rejected]
      refine ⟨⟨o.failed e, book, 0, lines⟩, rfl, ?_⟩
      intro own failed
      have same : own = e := by
        cases o <;> exact (Option.some.inj failed).symm
      rw [same]
      exact ⟨rejection_lasts e (rejection_found o e rejected), rfl⟩
  | none =>
      obtain ⟨α, context, p, line, wrap, task, works, found, sound, _, told⟩ := accepted_unit o write rejected
      rw [task]
      exact unit_settles faults now book lines _ _ p line wrap told works found (sound faults now book)

theorem operation_commits_last (limit : Option Nat) : (o.task limit).body.CommitsLast := by
  cases rejected : o.rejection? with
  | some e =>
      rw [rejected_task limit o e rejected]
      trivial
  | none =>
      obtain ⟨α, context, p, line, wrap, task, works, _⟩ := accepted_unit o write rejected
      have unit : (inUnit context p).CommitsLast := by
        refine ⟨Call.noConfusion, ?_⟩
        intro reply
        cases reply with
        | error e => trivial
        | ok _ => exact Program.in_unit_commits_last Troubled false _ (works_settled false context p works)
      have reports := Program.commits_last_closing (inUnit context p) _ id (reported_closes line) unit
      rw [task]
      exact Program.commits_last_closing _ _ wrap (fun _ => .done _) reports

end Operations

theorem operation_answers (now : Stamp) (book : Book) (o : Operation) :
    ∃ answer, (o.task none).body.solo now none book = .ok answer := by
  have written : o.isRead = false → ∃ answer, (o.task none).body.solo now none book = .ok answer := by
    intro write
    obtain ⟨x, tried, _⟩ := operation_settles o write .quiet now book []
    exact ⟨_, Program.trial_solo .quiet now (Control.calm_passes _ rfl) _ none book [] x tried⟩
  cases o with
  | createAccount input | createTransfer input => exact written rfl
  | getBalance id => exact ⟨_, get_balance_solo now book id⟩
  | listEntries id => exact ⟨_, list_entries_solo now book id⟩

end Ledger
end DoubleEntry
