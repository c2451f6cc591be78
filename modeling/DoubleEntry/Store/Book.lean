import DoubleEntry.Amount
import DoubleEntry.Ledger.Program
import DoubleEntry.Word

/-!
The books: accounts in order of their ids and the journal, the oldest entry first. What is written is
checked as a schema would: ids are positive and magnitudes below the limit. A debit goes ahead only where
the balance is at least its amount.
-/

set_option autoImplicit false

namespace DoubleEntry

open Time (Stamp)

structure Book where
  accounts : List Account
  entries : List Entry
  -- The id of the last entry, or 0. It stands for a signed word of 64 bits that only counts up from 0: a book is one of
  -- the store's as long as this stays below 2 ^ 63.
  lastEntry : Nat
deriving DecidableEq

namespace Book

def empty : Book := ⟨[], [], 0⟩

instance : Inhabited Book := ⟨empty⟩

def account? (b : Book) (id : AccountId) : Option Account := b.accounts.find? fun a => a.id == id

def has (b : Book) (id : AccountId) : Bool := b.accounts.any fun a => a.id == id

def entriesOf (b : Book) (id : AccountId) : List Entry := b.entries.filter fun e => e.account == id

-- The accounts that exist among some ids, each once.
def accountsAmong (b : Book) (ids : List AccountId) : List Account :=
  b.accounts.filter fun a => ids.contains a.id

def insertAccount (a : Account) : List Account → List Account
  | [] => [a]
  | head :: tail => if a.id < head.id then a :: head :: tail else head :: insertAccount a tail

def update (b : Book) (id : AccountId) (f : Account → Account) : Book :=
  { b with accounts := b.accounts.map fun a => if a.id == id then f a else a }

def overflow (column : String) (value : Decimal) : StoreError :=
  .backend ("numeric field overflow: " ++ column ++ "=" ++ value.toText)

abbrev Written (α : Type) := Except StoreError (α × Book)

def create (b : Book) (a : Account) : Written Account :=
  if a.id < 1 then
    .error (.backend s!"check constraint chk_account_id_positive violated: account_id={a.id}")
  else if !Amount.isBelowLimit a.balance then .error (overflow "balance" a.balance)
  else if b.has a.id then .error (.duplicateKey s!"accounts_pkey: account_id={a.id}")
  else .ok (a, { b with accounts := insertAccount a b.accounts })

def debit (b : Book) (id : AccountId) (amount : Decimal) (now : Stamp) :
    Except ArithmeticError (Nat × Book) :=
  match b.account? id with
  | none => .ok (0, b)
  | some a =>
    if amount.numLe a.balance then
      match a.balance.sub? amount with
      | some balance => .ok (1, b.update id fun a => { a with balance, modified := now })
      | none => .error .decimalSubtraction
    else .ok (0, b)

def credit (b : Book) (id : AccountId) (amount : Decimal) (now : Stamp) : Written Nat :=
  match b.account? id with
  | none => .ok (0, b)
  | some a =>
    match a.balance.add? amount with
    | none => .error (.backend s!"numeric overflow crediting account {id}")
    | some balance =>
      if Amount.isBelowLimit balance then
        .ok (1, b.update id fun a => { a with balance, modified := now })
      else .error (overflow "balance" balance)

def append (b : Book) (e : NewEntry) : Written Entry :=
  if Amount.isBelowLimit e.amount then
    let entry : Entry := ⟨b.lastEntry + 1, e.account, e.amount, e.created⟩
    .ok (entry, { b with entries := b.entries ++ [entry], lastEntry := b.lastEntry + 1 })
  else .error (overflow "amount" e.amount)

-- A reply and the book behind it, which is the same if the reply is a failure.
def written {α : Type} (b : Book) : Written α → Except StoreError α × Book
  | .ok (value, b) => (.ok value, b)
  | .error e => (.error e, b)

-- The work of a call on a book of one's own.
def answer (b : Book) : (c : Call) → Except ArithmeticError (Except StoreError c.Reply × Book)
  | .getAccount id => .ok (.ok (b.account? id), b)
  | .listEntries id => .ok (.ok (b.entriesOf id), b)
  | .begin => .ok (.ok (), b)
  | .getAccounts ids => .ok (.ok (b.accountsAmong ids), b)
  | .createAccount a => .ok (b.written (b.create a))
  | .debit id amount now => (b.debit id amount now).map fun (n, b) => (.ok n, b)
  | .credit id amount now => .ok (b.written (b.credit id amount now))
  | .append e => .ok (b.written (b.append e))
  | .commit => .ok (.ok (), b)
  | .rollback => .ok (.ok (), b)

end Book
end DoubleEntry
