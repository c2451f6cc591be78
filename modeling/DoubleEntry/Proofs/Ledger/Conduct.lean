import DoubleEntry.Ledger.Operations
import DoubleEntry.Proofs.Program.Mirror

/-!
The ledger's operations are orderly. The bad answers are those that say nothing about the accounts: a deadline
that passed, or a failure of the store.
-/

set_option autoImplicit false

namespace DoubleEntry

open Time (Stamp)

def LedgerError.isTrouble : LedgerError → Bool
  | timeout _ | internal _ _ => true
  | _ => false

namespace Ledger

variable {α : Type}

def Troubled (r : Result α) : Prop := ∃ e, r = .error e ∧ e.isTrouble = true

-- A program that does the work of a unit and leaves its end to `settle`.
inductive Works : Bool → Program (Result α) → Prop
  | done (read : Bool) (r : Result α) : Works read (.done r)
  | log (read : Bool) (line : LogLine) (rest : Program (Result α)) (works : Works read rest) :
      Works read (.log line rest)
  | clock (next : Stamp → Program (Result α)) (works : ∀ now, Works true (next now)) : Works false (.clock next)
  | call (read : Bool) (c : Call) (next : Except StoreError c.Reply → Program (Result α))
      (isWork : c.isWork = true) (works : ∀ reply, Works read (next reply))
      (failing : ∀ detail, ∃ e, e.isTrouble = true ∧ next (.error (.backend detail)) = .done (.error e)) :
      Works read (.call c next)

theorem works_attempt (read : Bool) (c : Call) (failed : StoreError → LedgerError)
    (next : c.Reply → Program (Result α)) (isWork : c.isWork = true)
    (trouble : ∀ detail, (failed (.backend detail)).isTrouble = true)
    (works : ∀ value, Works read (next value)) : Works read (attempt c failed next) := by
  refine .call read c _ isWork ?_ fun detail => ⟨_, trouble detail, rfl⟩
  intro reply
  cases reply with
  | ok value => exact works value
  | error e => exact .done read _

theorem settle_error_abandons (context : String) (e : LedgerError) (trouble : e.isTrouble = true) :
    (settle context (.error e : Result α)).Abandons Troubled := by
  refine ⟨_, .error e, rfl, ⟨e, rfl, trouble⟩, ?_⟩
  intro reply
  cases reply with
  | ok value => exact .done _
  | error failure => exact .log _ _ _ (.done _)

theorem settle_in_unit (read : Bool) (context : String) (r : Result α) :
    (settle context r).InUnit Troubled read := by
  cases r with
  | ok value => exact .commit read _ (.ok value) (.done _) fun _ => ⟨_, ⟨_, rfl, rfl⟩, .done _⟩
  | error cause =>
      refine .rollback read _ (.error cause) ?_
      intro reply
      cases reply with
      | ok value => exact .done _
      | error failure => exact .log _ _ _ (.done _)

theorem works_settled (read : Bool) (context : String) (p : Program (Result α)) (works : Works read p) :
    (p.bind (settle context)).InUnit Troubled read := by
  induction works with
  | done read r => exact settle_in_unit read context r
  | log read line rest _ ih => exact .log read line _ ih
  | clock next _ ih => exact .clock _ ih
  | call read c next isWork _ failing ih =>
      refine .work read c _ isWork ih ?_
      intro detail
      obtain ⟨e, trouble, answered⟩ := failing detail
      rw [answered]
      exact settle_error_abandons context e trouble

theorem in_unit_orderly (context : String) (body : Program (Result α)) (works : Works false body) :
    (inUnit context body).Orderly Troubled :=
  .begin _ (works_settled false context body works) fun _ => ⟨_, ⟨_, rfl, rfl⟩, .done _⟩

theorem bounded_orderly (limit : Option Nat) (operation : String) (body : Program (Result α))
    (orderly : body.Orderly Troubled) : (bounded limit operation body).Orderly Troubled := by
  refine ⟨orderly, ?_⟩
  intro d deadline
  obtain ⟨limit, _, rfl⟩ := Option.map_eq_some_iff.mp deadline
  exact ⟨_, ⟨_, rfl, rfl⟩, .log _ _ _ (.done _)⟩

theorem reported_closes (line : α → LogLine) (r : Result α) : (reported line r).Closes r := by
  cases r with
  | ok value => exact .log _ _ _ (.done _)
  | error e => exact .done _

theorem insert_account_works (context : String) (id : AccountId) (balance : Decimal) :
    Works false (insertAccount context id balance) := by
  refine .clock _ fun now => works_attempt true _ _ _ rfl (fun _ => rfl) fun account => ?_
  exact works_attempt true _ _ _ rfl (fun _ => rfl) fun _ => .done _ _

theorem move_funds_works (context : String) (source destination : AccountId) (amount : Decimal) :
    Works false (moveFunds context source destination amount) := by
  refine works_attempt false _ _ _ rfl (fun _ => rfl) fun found => ?_
  by_cases missing : found.length < 2
  · simpa only [if_pos missing] using Works.done false _
  · rw [if_neg missing]
    refine .clock _ fun now => works_attempt true _ _ _ rfl (fun _ => rfl) fun debited => ?_
    by_cases short : debited = 0
    · simpa only [if_pos short] using Works.log true _ _ (.done true _)
    · rw [if_neg short]
      refine works_attempt true _ _ _ rfl (fun _ => rfl) fun credited => ?_
      by_cases lost : credited = 0
      · simpa only [if_pos lost] using Works.done true _
      · rw [if_neg lost]
        refine works_attempt true _ _ _ rfl (fun _ => rfl) fun _ => ?_
        exact works_attempt true _ _ _ rfl (fun _ => rfl) fun _ => .done _ _

theorem unlimited_orderly {β : Type} (bad : β → Prop) (p : Program β) (orderly : p.Orderly bad) :
    (Task.unlimited p).Orderly bad :=
  ⟨orderly, fun _ deadline => by cases deadline⟩

theorem reported_orderly (line : α → LogLine) (t : Task (Result α)) (orderly : t.Orderly Troubled) :
    (t.bind (reported line)).Orderly Troubled :=
  task_orderly_bind Troubled Troubled _ (fun r => ⟨r, reported_closes line r⟩)
    (fun r troubled => ⟨r, troubled, reported_closes line r⟩) t orderly

theorem create_account_orderly (limit : Option Nat) (input : NewAccount) :
    (createAccount limit input).Orderly Troubled := by
  rw [createAccount]
  by_cases negative : input.initialBalance.numLt Decimal.zero = true
  · simpa only [if_pos negative] using unlimited_orderly Troubled _ (.closes _ _ (.done _))
  · rw [if_neg negative]
    exact reported_orderly _ _ (bounded_orderly _ _ _ (in_unit_orderly _ _ (insert_account_works _ _ _)))

theorem create_transfer_orderly (limit : Option Nat) (input : Transfer) :
    (createTransfer limit input).Orderly Troubled := by
  rw [createTransfer]
  by_cases negative : input.amount.numLt Decimal.zero = true
  · simpa only [if_pos negative] using unlimited_orderly Troubled _ (.closes _ _ (.done _))
  · by_cases same : input.source = input.destination
    · simpa only [if_neg negative, if_pos same] using unlimited_orderly Troubled _ (.closes _ _ (.done _))
    · rw [if_neg negative, if_neg same]
      exact reported_orderly _ _ (bounded_orderly _ _ _ (in_unit_orderly _ _ (move_funds_works _ _ _ _)))

theorem get_balance_orderly (id : AccountId) : (getBalance id).Orderly fun _ => False := by
  refine unlimited_orderly _ _ (.read _ _ rfl ?_)
  intro reply
  cases reply with
  | error e => exact ⟨_, .done _⟩
  | ok found =>
      cases found with
      | none => exact ⟨_, .done _⟩
      | some account => exact ⟨_, .done _⟩

theorem list_entries_orderly (id : AccountId) : (listEntries id).Orderly fun _ => False := by
  refine unlimited_orderly _ _ (.probe id _ _ (fun _ => rfl) ?_ ⟨_, .done _⟩)
  refine .read _ _ rfl ?_
  intro reply
  cases reply with
  | ok entries => exact ⟨_, .done _⟩
  | error e => exact ⟨_, .done _⟩

section Operations

def Operation.isRead : Operation → Bool
  | getBalance _ | listEntries _ => true
  | _ => false

def Outcome.error? : Outcome → Option LedgerError
  | account (.error e) | transfer (.error e) | entries (.error e) => some e
  | _ => none

theorem create_account_body (limit other : Option Nat) (input : NewAccount) :
    (createAccount limit input).body = (createAccount other input).body := by
  unfold createAccount
  split <;> rfl

theorem create_transfer_body (limit other : Option Nat) (input : Transfer) :
    (createTransfer limit input).body = (createTransfer other input).body := by
  unfold createTransfer
  split
  · rfl
  · split <;> rfl

theorem operation_body (limit other : Option Nat) (o : Operation) : (o.task limit).body = (o.task other).body := by
  cases o with
  | createAccount input => exact congrArg (Program.bind · _) (create_account_body limit other input)
  | createTransfer input => exact congrArg (Program.bind · _) (create_transfer_body limit other input)
  | getBalance id => rfl
  | listEntries id => rfl

theorem operation_orderly (limit : Option Nat) (o : Operation) :
    (o.task limit).Orderly fun outcome => o.isRead = false ∧ outcome.error?.any LedgerError.isTrouble = true := by
  cases o with
  | createAccount input =>
      refine task_orderly_map Troubled _ _ ?_ _ (create_account_orderly limit input)
      rintro r ⟨e, rfl, trouble⟩
      exact ⟨rfl, trouble⟩
  | createTransfer input =>
      refine task_orderly_map Troubled _ _ ?_ _ (create_transfer_orderly limit input)
      rintro r ⟨e, rfl, trouble⟩
      exact ⟨rfl, trouble⟩
  | getBalance id => exact task_orderly_map _ _ _ (fun _ => False.elim) _ (get_balance_orderly id)
  | listEntries id => exact task_orderly_map _ _ _ (fun _ => False.elim) _ (list_entries_orderly id)

-- What the ledger finds wrong with an input before it calls the store.
def Operation.rejection? : Operation → Option LedgerError
  | createAccount input => if input.initialBalance.numLt Decimal.zero then some .negativeBalance else none
  | createTransfer input =>
    if input.amount.numLt Decimal.zero then some .negativeAmount
    else if input.source = input.destination then some .sameAccount
    else none
  | getBalance _ | listEntries _ => none

-- The amount that an operation would put into the books.
def Operation.amount? : Operation → Option Decimal
  | createAccount input => some (Amount.round input.initialBalance)
  | createTransfer input => some (Amount.round input.amount)
  | getBalance _ | listEntries _ => none

def Operation.failed : Operation → LedgerError → Outcome
  | createAccount _, e | getBalance _, e => .account (.error e)
  | createTransfer _, e => .transfer (.error e)
  | listEntries _, e => .entries (.error e)

theorem rejected_account (limit : Option Nat) (input : NewAccount) (e : LedgerError)
    (rejected : (Operation.createAccount input).rejection? = some e) :
    createAccount limit input = .unlimited (.done (.error e)) := by
  by_cases negative : input.initialBalance.numLt Decimal.zero = true
  · simp only [Operation.rejection?, if_pos negative, Option.some.injEq] at rejected
    subst rejected
    simp only [createAccount, if_pos negative]
  · simp only [Operation.rejection?, if_neg negative] at rejected
    cases rejected

theorem rejected_transfer (limit : Option Nat) (input : Transfer) (e : LedgerError)
    (rejected : (Operation.createTransfer input).rejection? = some e) :
    createTransfer limit input = .unlimited (.done (.error e)) := by
  by_cases negative : input.amount.numLt Decimal.zero = true
  · simp only [Operation.rejection?, if_pos negative, Option.some.injEq] at rejected
    subst rejected
    simp only [createTransfer, if_pos negative]
  · by_cases same : input.source = input.destination
    · simp only [Operation.rejection?, if_neg negative, if_pos same, Option.some.injEq] at rejected
      subst rejected
      simp only [createTransfer, if_neg negative, if_pos same]
    · simp only [Operation.rejection?, if_neg negative, if_neg same] at rejected
      cases rejected

theorem rejected_task (limit : Option Nat) (o : Operation) (e : LedgerError) (rejected : o.rejection? = some e) :
    o.task limit = .unlimited (.done (o.failed e)) := by
  cases o with
  | createAccount input =>
      rw [Operation.task, rejected_account limit input e rejected]
      rfl
  | createTransfer input =>
      rw [Operation.task, rejected_transfer limit input e rejected]
      rfl
  | getBalance id | listEntries id => cases rejected

theorem accepted_account (limit : Option Nat) (input : NewAccount)
    (accepted : (Operation.createAccount input).rejection? = none) :
    createAccount limit input =
      (bounded limit "create account" (inUnit s!"create account {input.id}"
        (insertAccount s!"create account {input.id}" input.id (Amount.round input.initialBalance)))).bind
          (reported (accountCreated input.id)) := by
  by_cases negative : input.initialBalance.numLt Decimal.zero = true
  · simp only [Operation.rejection?, if_pos negative] at accepted
    cases accepted
  · simp only [createAccount, if_neg negative]

theorem accepted_transfer (limit : Option Nat) (input : Transfer)
    (accepted : (Operation.createTransfer input).rejection? = none) :
    createTransfer limit input =
      (bounded limit "create transfer" (inUnit s!"create transfer {input.source} -> {input.destination}"
        (moveFunds s!"create transfer {input.source} -> {input.destination}" input.source input.destination
          (Amount.round input.amount)))).bind
            (reported fun _ => transferCommitted input.source input.destination (Amount.round input.amount)) := by
  by_cases negative : input.amount.numLt Decimal.zero = true
  · simp only [Operation.rejection?, if_pos negative] at accepted
    cases accepted
  · by_cases same : input.source = input.destination
    · simp only [Operation.rejection?, if_neg negative, if_pos same] at accepted
      cases accepted
    · simp only [createTransfer, if_neg negative, if_neg same]

theorem accepted_calls (limit : Option Nat) (o : Operation) (accepted : o.rejection? = none) (outcome : Outcome) :
    ¬ (o.task limit).body.Closes outcome := by
  intro closes
  cases o with
  | createAccount input =>
      simp only [Operation.task, accepted_account limit input accepted] at closes
      cases closes
  | createTransfer input =>
      simp only [Operation.task, accepted_transfer limit input accepted] at closes
      cases closes
  | getBalance id => cases closes
  | listEntries id => cases closes

theorem read_account_reads (id : AccountId) : (readAccount id).OnlyReads := by
  refine .read _ _ rfl fun reply => ?_
  rcases reply with e | found
  · exact .closes _ _ (.done _)
  · cases found with
    | none => exact .closes _ _ (.done _)
    | some account => exact .closes _ _ (.done _)

theorem read_entries_reads (id : AccountId) : (readEntries id).OnlyReads := by
  refine .read _ _ rfl fun reply => ?_
  rcases reply with e | found
  · exact .closes _ _ (.done _)
  · cases found with
    | none => exact .closes _ _ (.done _)
    | some account =>
        refine .read _ _ rfl fun reply => ?_
        cases reply with
        | error e => exact .closes _ _ (.done _)
        | ok entries => exact .closes _ _ (.done _)

-- What is so of programs that only read and of the units of work, and passes on to programs that make the same calls, is
-- so of every operation.
theorem operation_inherits (Q : (α : Type) → Program α → Prop) (reads : ∀ (α : Type) (p : Program α), p.OnlyReads → Q α p)
    (passes : ∀ (α β : Type) (g : α → β) (p : Program α) (q : Program β), p.Mirrors g q → Q α p → Q β q)
    (limit : Option Nat) (o : Operation)
    (account : ∀ input, o = .createAccount input → o.rejection? = none → Q _ (inUnit s!"create account {input.id}"
      (insertAccount s!"create account {input.id}" input.id (Amount.round input.initialBalance))))
    (transfer : ∀ input, o = .createTransfer input → o.rejection? = none →
      Q _ (inUnit s!"create transfer {input.source} -> {input.destination}"
        (moveFunds s!"create transfer {input.source} -> {input.destination}" input.source input.destination
          (Amount.round input.amount)))) :
    Q Outcome (o.task limit).body := by
  cases rejected : o.rejection? with
  | some e =>
      rw [rejected_task limit o e rejected]
      exact reads _ _ (.closes _ _ (.done _))
  | none =>
      cases o with
      | getBalance id =>
          exact passes _ _ _ _ _ (Program.mirrors_then .account _ _ fun _ => .done _) (reads _ _ (read_account_reads id))
      | listEntries id =>
          exact passes _ _ _ _ _ (Program.mirrors_then .entries _ _ fun _ => .done _) (reads _ _ (read_entries_reads id))
      | createAccount input =>
          rw [Operation.task, accepted_account limit input rejected]
          refine passes _ _ _ _ _ (Program.mirrors_then .account _ _ fun _ => .done _) ?_
          exact passes _ _ _ _ _ (Program.mirrors_then id _ _ (reported_closes _)) (account input rfl rejected)
      | createTransfer input =>
          rw [Operation.task, accepted_transfer limit input rejected]
          refine passes _ _ _ _ _ (Program.mirrors_then .transfer _ _ fun _ => .done _) ?_
          exact passes _ _ _ _ _ (Program.mirrors_then id _ _ (reported_closes _)) (transfer input rfl rejected)

end Operations

end Ledger
end DoubleEntry
