import DoubleEntry.Proofs.Ledger.Conduct
import DoubleEntry.Proofs.Program.Solo

/-!
What the ledger's operations do to the books when they are left alone, said once. Either an operation that
changes accounts succeeds, and then each of its writes did, or the books are as they were.
-/

set_option autoImplicit false

namespace DoubleEntry

open Time (Stamp)

def Program.workOn {α : Type} (now : Stamp) : Program α → Book → Except ArithmeticError (α × Book)
  | .done a, b => .ok (a, b)
  | .log _ rest, b => rest.workOn now b
  | .clock next, b => (next now).workOn now b
  | .call c next, b =>
    match b.answer c with
    | .ok (reply, after) => (next reply).workOn now after
    | .error e => .error e

theorem written_ok {α : Type} (b mid : Book) (w : Book.Written α) (value : α)
    (done : b.written w = (.ok value, mid)) : w = .ok (value, mid) := by
  cases w with
  | ok result =>
      cases done
      rfl
  | error e => cases done

theorem debit_answered (b mid : Book) (id : AccountId) (amount : Decimal) (now : Stamp) (n : Nat)
    (answered : b.answer (.debit id amount now) = .ok (.ok n, mid)) : b.debit id amount now = .ok (n, mid) := by
  cases debited : b.debit id amount now with
  | error e =>
      simp only [Book.answer, debited] at answered
      cases answered
  | ok result =>
      simp only [Book.answer, debited] at answered
      cases answered
      rfl

namespace Ledger

variable {α : Type}

-- A unit of work publishes its book if it went well and nothing otherwise.
def published (committed : Book) : Result α × Book → Result α × Book
  | (.ok value, after) => (.ok value, after)
  | (.error e, _) => (.error e, committed)

theorem solo_settled (now : Stamp) (context : String) (read : Bool) (p : Program (Result α)) (works : Works read p)
    (unit committed : Book) :
    (p.bind (settle context)).solo now (some unit) committed = (p.workOn now unit).map (published committed) := by
  induction works generalizing unit with
  | done read r => cases r <;> rfl
  | log read line rest _ ih => exact ih unit
  | clock next _ ih => exact ih now unit
  | call read c next isWork _ _ ih =>
      simp only [Program.bind, Program.solo, Program.workOn, serve_work (some unit) committed c isWork,
        Option.getD_some]
      cases unit.answer c with
      | error e => rfl
      | ok result => exact ih result.1 result.2

theorem unit_solo (now : Stamp) (limit : Option Nat) (operation context : String) (p : Program (Result α))
    (line : α → LogLine) (wrap : Result α → Outcome) (works : Works false p) (committed : Book) :
    (((bounded limit operation (inUnit context p)).bind (reported line)).map wrap).body.solo now none committed =
      (p.workOn now committed).map fun result =>
        (wrap (published committed result).1, (published committed result).2) := by
  have begun : (inUnit context p).solo now none committed = (p.workOn now committed).map (published committed) :=
    solo_settled now context false p works committed committed
  have logged := Program.solo_bind now (inUnit context p) (reported line) id none committed (reported_closes line)
  have wrapped := Program.solo_bind now ((inUnit context p).bind (reported line)) (fun r => .done (wrap r)) wrap none
    committed fun r => .done (wrap r)
  change (((inUnit context p).bind (reported line)).bind fun r => .done (wrap r)).solo now none committed = _
  rw [wrapped, logged, begun]
  cases p.workOn now committed <;> rfl

theorem unit_effect (now : Stamp) (limit : Option Nat) (operation context : String) (p : Program (Result α))
    (line : α → LogLine) (wrap : Result α → Outcome) (works : Works false p) (committed later : Book)
    (outcome : Outcome)
    (result : (((bounded limit operation (inUnit context p)).bind (reported line)).map wrap).body.solo now none
      committed = .ok (outcome, later)) :
    (∃ value, p.workOn now committed = .ok (.ok value, later) ∧ outcome = wrap (.ok value)) ∨
      ∃ e, outcome = wrap (.error e) ∧ later = committed := by
  rw [unit_solo now limit operation context p line wrap works committed] at result
  cases worked : p.workOn now committed with
  | error e =>
      rw [worked] at result
      cases result
  | ok done =>
      obtain ⟨answer, after⟩ := done
      rw [worked] at result
      cases answer with
      | ok value =>
          cases result
          exact .inl ⟨value, rfl, rfl⟩
      | error e =>
          cases result
          exact .inr ⟨e, rfl, rfl⟩

theorem work_attempt (now : Stamp) (c : Call) (failed : StoreError → LedgerError)
    (next : c.Reply → Program (Result α)) (b later : Book) (value : α)
    (result : (attempt c failed next).workOn now b = .ok (.ok value, later)) :
    ∃ reply mid, b.answer c = .ok (.ok reply, mid) ∧ (next reply).workOn now mid = .ok (.ok value, later) := by
  unfold attempt Program.workOn at result
  cases answered : b.answer c with
  | error e =>
      rw [answered] at result
      cases result
  | ok done =>
      obtain ⟨reply, mid⟩ := done
      rw [answered] at result
      cases reply with
      | error e => cases result
      | ok reply => exact ⟨reply, mid, rfl, result⟩

-- The writes of an operation that succeeds.
inductive Writes (now : Stamp) (book later : Book) : Operation → Prop
  | opened (input : NewAccount) (account : Account) (entry : Entry) (mid : Book)
      (accepted : (Operation.createAccount input).rejection? = none)
      (created : book.create ⟨input.id, Amount.round input.initialBalance, now, now⟩ = .ok (account, mid))
      (appended : mid.append ⟨input.id, Amount.round input.initialBalance, now⟩ = .ok (entry, later)) :
      Writes now book later (.createAccount input)
  | moved (input : Transfer) (debited credited : Nat) (left right : Entry) (reduced raised mid : Book)
      (accepted : (Operation.createTransfer input).rejection? = none)
      (debit : book.debit input.source (Amount.round input.amount) now = .ok (debited, reduced))
      (enough : debited ≠ 0)
      (credit : reduced.credit input.destination (Amount.round input.amount) now = .ok (credited, raised))
      (present : credited ≠ 0)
      (first : raised.append ⟨input.source, (Amount.round input.amount).neg, now⟩ = .ok (left, mid))
      (second : mid.append ⟨input.destination, Amount.round input.amount, now⟩ = .ok (right, later)) :
      Writes now book later (.createTransfer input)

section Effect

variable (now : Stamp) (book later : Book)

theorem insert_account_writes (context : String) (input : NewAccount) (account : Account)
    (accepted : (Operation.createAccount input).rejection? = none)
    (result : (insertAccount context input.id (Amount.round input.initialBalance)).workOn now book =
      .ok (.ok account, later)) : Writes now book later (.createAccount input) := by
  obtain ⟨opened, mid, creating, result⟩ := work_attempt now _ _ _ book later account result
  obtain ⟨entry, last, appending, result⟩ := work_attempt now _ _ _ mid later account result
  cases result
  exact .opened input account entry mid accepted (written_ok book mid _ account (Except.ok.inj creating))
    (written_ok mid _ _ entry (Except.ok.inj appending))

theorem move_funds_writes (context : String) (input : Transfer) (done : Unit)
    (accepted : (Operation.createTransfer input).rejection? = none)
    (result : (moveFunds context input.source input.destination (Amount.round input.amount)).workOn now book =
      .ok (.ok done, later)) : Writes now book later (.createTransfer input) := by
  obtain ⟨found, same, looking, result⟩ := work_attempt now _ _ _ book later done result
  cases looking
  by_cases missing : (book.accountsAmong [input.source, input.destination]).length < 2
  · rw [if_pos missing] at result
    cases result
  rw [if_neg missing] at result
  obtain ⟨debited, reduced, debiting, result⟩ := work_attempt now _ _ _ book later done result
  by_cases short : debited = 0
  · rw [if_pos short] at result
    cases result
  rw [if_neg short] at result
  obtain ⟨credited, raised, crediting, result⟩ := work_attempt now _ _ _ reduced later done result
  by_cases lost : credited = 0
  · rw [if_pos lost] at result
    cases result
  rw [if_neg lost] at result
  obtain ⟨left, mid, appendingLeft, result⟩ := work_attempt now _ _ _ raised later done result
  obtain ⟨right, last, appendingRight, result⟩ := work_attempt now _ _ _ mid later done result
  cases result
  exact .moved input debited credited left right reduced raised mid accepted
    (debit_answered book reduced _ _ _ debited debiting) short
    (written_ok reduced raised _ credited (Except.ok.inj crediting)) lost
    (written_ok raised mid _ left (Except.ok.inj appendingLeft))
    (written_ok mid _ _ right (Except.ok.inj appendingRight))

def balanceIn (id : AccountId) : Result Account :=
  match book.account? id with
  | some account => .ok account
  | none => .error (.notFound id)

def entriesIn (id : AccountId) : Result (List Entry) :=
  match book.account? id with
  | some _ => .ok (book.entriesOf id)
  | none => .error (.notFound id)

theorem get_balance_solo (id : AccountId) :
    ((Operation.getBalance id).task none).body.solo now none book = .ok (.account (balanceIn book id), book) := by
  rw [balanceIn]
  simp only [Operation.task, getBalance, readAccount, attempt, Task.map, Task.bind, Task.unlimited, Program.bind,
    Program.solo, Book.serve]
  cases book.account? id <;> rfl

theorem list_entries_solo (id : AccountId) :
    ((Operation.listEntries id).task none).body.solo now none book = .ok (.entries (entriesIn book id), book) := by
  rw [entriesIn]
  simp only [Operation.task, listEntries, readEntries, readAccount, attempt, Task.map, Task.bind, Task.unlimited,
    Program.bind, Program.solo, Book.serve]
  cases book.account? id <;> rfl

theorem operation_effect (o : Operation) (outcome : Outcome)
    (result : (o.task none).body.solo now none book = .ok (outcome, later)) :
    (o.isRead = false ∧ outcome.error? = none ∧ Writes now book later o) ∨
      (o.isRead = true ∨ outcome.error?.isSome = true) ∧ later = book := by
  cases rejected : o.rejection? with
  | some e =>
      rw [rejected_task none o e rejected] at result
      cases result
      refine .inr ⟨.inr ?_, rfl⟩
      cases o <;> rfl
  | none =>
      cases o with
      | createAccount input =>
          simp only [Operation.task, accepted_account none input rejected] at result
          rcases unit_effect now none _ _ _ _ _ (insert_account_works _ _ _) book later outcome result with
            ⟨account, worked, rfl⟩ | ⟨e, rfl, kept⟩
          · exact .inl ⟨rfl, rfl, insert_account_writes now book later _ input account rejected worked⟩
          · exact .inr ⟨.inr rfl, kept⟩
      | createTransfer input =>
          simp only [Operation.task, accepted_transfer none input rejected] at result
          rcases unit_effect now none _ _ _ _ _ (move_funds_works _ _ _ _) book later outcome result with
            ⟨done, worked, rfl⟩ | ⟨e, rfl, kept⟩
          · exact .inl ⟨rfl, rfl, move_funds_writes now book later _ input done rejected worked⟩
          · exact .inr ⟨.inr rfl, kept⟩
      | getBalance id =>
          rw [get_balance_solo] at result
          cases result
          exact .inr ⟨.inl rfl, rfl⟩
      | listEntries id =>
          rw [list_entries_solo] at result
          cases result
          exact .inr ⟨.inl rfl, rfl⟩

end Effect

end Ledger
end DoubleEntry
