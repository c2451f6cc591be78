import DoubleEntry.Amount
import DoubleEntry.Ledger.Program
import DoubleEntry.Time.Span

/-!
The operations of the ledger. Inputs are checked before any call to the store. What changes accounts runs
as one unit of work: it is committed if everything in it went well and rolled back otherwise, and it has
to be done before the deadline, if there is one. A transfer debits only what is there.
-/

set_option autoImplicit false

namespace DoubleEntry.Ledger

open Time (Span)

abbrev Result (α : Type) := Except LedgerError α

variable {α : Type}

def attempt (c : Call) (failed : StoreError → LedgerError) (next : c.Reply → Program (Result α)) :
    Program (Result α) :=
  .call c fun reply =>
    match reply with
    | .ok value => next value
    | .error e => .done (.error (failed e))

def failedAt (context step : String) (e : StoreError) : LedgerError :=
  .internal (context ++ ": " ++ step) e

def rollbackFailed (context : String) (e : StoreError) (cause : LedgerError) : LogLine :=
  .event .error (context ++ ": rollback failed") [("error", e.message), ("cause", cause.message)]

-- Commits what went well and rolls back the rest. A rollback that fails is only logged.
def settle (context : String) : Result α → Program (Result α)
  | .ok value => attempt .commit (failedAt context "commit transaction") fun _ => .done (.ok value)
  | .error cause =>
    .call .rollback fun reply =>
      match reply with
      | .ok _ => .done (.error cause)
      | .error e => .log (rollbackFailed context e cause) (.done (.error cause))

def inUnit (context : String) (body : Program (Result α)) : Program (Result α) :=
  attempt .begin (failedAt context "begin transaction") fun _ => body.bind (settle context)

def timedOut (operation : String) (limit : Nat) : LogLine :=
  .event .warn "Ledger operation timed out"
    [("operation", operation), ("timeout", (Span.ofMillis limit).toText)]

def bounded (limit : Option Nat) (operation : String) (body : Program (Result α)) : Task (Result α) :=
  { body
    deadline := limit.map fun limit =>
      { after := limit
        instead := .log (timedOut operation limit) (.done (.error (.timeout operation))) } }

def reported (line : α → LogLine) : Result α → Program (Result α)
  | .ok value => .log (line value) (.done (.ok value))
  | .error e => .done (.error e)

def insertFailed (context : String) (id : AccountId) : StoreError → LedgerError
  | .duplicateKey _ => .alreadyExists id
  | e => failedAt context "insert account" e

def insertAccount (context : String) (id : AccountId) (balance : Decimal) : Program (Result Account) :=
  .clock fun now =>
    attempt (.createAccount ⟨id, balance, now, now⟩) (insertFailed context id) fun account =>
      attempt (.append ⟨id, balance, now⟩) (failedAt context "append ledger entry") fun _ =>
        .done (.ok account)

def accountCreated (id : AccountId) (account : Account) : LogLine :=
  .event .debug "Account created" [("account_id", toString id), ("balance", account.balance.toText)]

/-- Opens an account with a rounded balance and the one entry that makes it up. -/
def createAccount (limit : Option Nat) (input : NewAccount) : Task (Result Account) :=
  if input.initialBalance.numLt Decimal.zero then .unlimited (.done (.error .negativeBalance))
  else
    let context := s!"create account {input.id}"
    let body := insertAccount context input.id (Amount.round input.initialBalance)
    (bounded limit "create account" (inUnit context body)).bind (reported (accountCreated input.id))

def readAccount (id : AccountId) : Program (Result Account) :=
  attempt (.getAccount id) (.internal s!"get account {id}") fun found =>
    match found with
    | some account => .done (.ok account)
    | none => .done (.error (.notFound id))

def getBalance (id : AccountId) : Task (Result Account) := .unlimited (readAccount id)

def readEntries (id : AccountId) : Program (Result (List Entry)) :=
  (readAccount id).bind fun found =>
    match found with
    | .error e => .done (.error e)
    | .ok _ =>
      attempt (.listEntries id) (.internal s!"list entries {id}") fun entries => .done (.ok entries)

def listEntries (id : AccountId) : Task (Result (List Entry)) := .unlimited (readEntries id)

def insufficientFunds (id : AccountId) (amount : Decimal) : LogLine :=
  .event .debug "Insufficient funds" [("account_id", toString id), ("amount", amount.toText)]

def notUpdated (id : AccountId) : StoreError := .backend s!"account {id} not updated"

def moveFunds (context : String) (source destination : AccountId) (amount : Decimal) :
    Program (Result Unit) :=
  attempt (.getAccounts [source, destination]) (failedAt context "check accounts") fun found =>
    if found.length < 2 then .done (.error (.partyNotFound source destination))
    else
      .clock fun now =>
        attempt (.debit source amount now) (failedAt context "debit account") fun debited =>
          if debited = 0 then
            .log (insufficientFunds source amount) (.done (.error (.insufficientFunds source)))
          else
            attempt (.credit destination amount now) (failedAt context "credit account") fun credited =>
              if credited = 0 then
                .done (.error (failedAt context "credit account" (notUpdated destination)))
              else
                attempt (.append ⟨source, amount.neg, now⟩) (failedAt context "append ledger entry")
                  fun _ =>
                    attempt (.append ⟨destination, amount, now⟩)
                      (failedAt context "append ledger entry") fun _ => .done (.ok ())

def transferCommitted (source destination : AccountId) (amount : Decimal) : LogLine :=
  .event .debug "Transfer committed"
    [("source_account_id", toString source), ("destination_account_id", toString destination),
     ("amount", amount.toText)]

/-- Moves a rounded amount from one account to another. -/
def createTransfer (limit : Option Nat) (input : Transfer) : Task (Result Unit) :=
  if input.amount.numLt Decimal.zero then .unlimited (.done (.error .negativeAmount))
  else if input.source = input.destination then .unlimited (.done (.error .sameAccount))
  else
    let context := s!"create transfer {input.source} -> {input.destination}"
    let amount := Amount.round input.amount
    let body := moveFunds context input.source input.destination amount
    (bounded limit "create transfer" (inUnit context body)).bind
      (reported fun _ => transferCommitted input.source input.destination amount)

inductive Operation where
  | createAccount (input : NewAccount)
  | getBalance (id : AccountId)
  | createTransfer (input : Transfer)
  | listEntries (id : AccountId)
deriving DecidableEq

inductive Outcome where
  | account (r : Result Account)
  | transfer (r : Result Unit)
  | entries (r : Result (List Entry))

def Operation.task (limit : Option Nat) : Operation → Task Outcome
  | createAccount input => (Ledger.createAccount limit input).map .account
  | getBalance id => (Ledger.getBalance id).map .account
  | createTransfer input => (Ledger.createTransfer limit input).map .transfer
  | listEntries id => (Ledger.listEntries id).map .entries

end DoubleEntry.Ledger
