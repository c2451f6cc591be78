import DoubleEntry.Ledger.Program
import DoubleEntry.Sql.Connection

/-!
The ledger's store behind SQL. Each call is one statement. A debit is a single update that takes effect only
where the balance is at least its amount, and no new balance is ever computed on this side.
-/

set_option autoImplicit false

namespace DoubleEntry.Sql

open Time (Stamp)

def selectAccount (id : AccountId) : Statement :=
  .select AccountColumn.all accounts [.equals AccountColumn.id (.bigint id)] none (some 1)

def selectEntries (id : AccountId) : Statement :=
  .select EntryColumn.all ledgerEntries [.equals EntryColumn.account (.bigint id)]
    (some EntryColumn.id) none

def selectAccounts (ids : List AccountId) : Statement :=
  .select AccountColumn.all accounts [.among AccountColumn.id (ids.map Param.bigint)] none none

def insertAccount (a : Account) : Statement :=
  .insert accounts
    [(AccountColumn.id, .bigint a.id), (AccountColumn.balance, .decimal a.balance),
     (AccountColumn.created, .timestamp a.created), (AccountColumn.modified, .timestamp a.modified)]
    AccountColumn.all

def insertEntry (e : NewEntry) : Statement :=
  .insert ledgerEntries
    [(EntryColumn.account, .bigint e.account), (EntryColumn.amount, .decimal e.amount),
     (EntryColumn.created, .timestamp e.created)]
    EntryColumn.all

def debit (id : AccountId) (amount : Decimal) (now : Stamp) : Statement :=
  .update accounts
    [.decrease AccountColumn.balance (.decimal amount), .set AccountColumn.modified (.timestampUtc now)]
    [.equals AccountColumn.id (.bigint id), .atLeast AccountColumn.balance (.decimal amount)]

def credit (id : AccountId) (amount : Decimal) (now : Stamp) : Statement :=
  .update accounts
    [.increase AccountColumn.balance (.decimal amount), .set AccountColumn.modified (.timestampUtc now)]
    [.equals AccountColumn.id (.bigint id)]

abbrev Decoded (α : Type) := Except SqlError α

def cell (row : Row) (c : Column) : Decoded Cell :=
  match row.lookup c.name with
  | some value => .ok value
  | none => .error (.query ("No column for ColIdx " ++ quoted c.name))

def mismatch : SqlError := .type "Value type mismatch"

def Cell.int? : Cell → Decoded Int
  | int n => .ok n
  | _ => .error mismatch

def Cell.decimal? : Cell → Decoded Decimal
  | decimal d => .ok d
  | _ => .error mismatch

def Cell.stamp? : Cell → Decoded Stamp
  | timestamp m => .ok (.moment m)
  | _ => .error mismatch

def Cell.text? : Cell → Decoded String
  | text s => .ok s
  | _ => .error mismatch

def accountOfRow (row : Row) : Decoded Account := do
  let id ← (← cell row AccountColumn.id).int?
  let balance ← (← cell row AccountColumn.balance).decimal?
  let created ← (← cell row AccountColumn.created).stamp?
  let modified ← (← cell row AccountColumn.modified).stamp?
  return { id, balance, created, modified }

def entryOfRow (row : Row) : Decoded Entry := do
  let id ← (← cell row EntryColumn.id).int?
  let account ← (← cell row EntryColumn.account).int?
  let amount ← (← cell row EntryColumn.amount).decimal?
  let created ← (← cell row EntryColumn.created).stamp?
  return { id, account, amount, created }

def inserted {α : Type} (decode : Row → Decoded α) (rows : List Row) : Decoded α :=
  match rows with
  | row :: _ => decode row
  | [] => .error (.recordNotFound "Failed to find inserted item")

def firstRow {α : Type} (decode : Row → Decoded α) (rows : List Row) : Decoded (Option α) :=
  match rows with
  | row :: _ => (decode row).map some
  | [] => .ok none

def wire : Call → Sent
  | .getAccount id => .query .qualified (selectAccount id)
  | .listEntries id => .query .qualified (selectEntries id)
  | .begin => .begin
  | .getAccounts ids => .query .qualified (selectAccounts ids)
  | .createAccount a => .query .qualified (insertAccount a)
  | .debit id amount now => .execute .qualified (debit id amount now)
  | .credit id amount now => .execute .qualified (credit id amount now)
  | .append e => .query .qualified (insertEntry e)
  | .commit => .commit
  | .rollback => .rollback

def decoded : (c : Call) → Reply → Decoded c.Reply
  | .getAccount _, reply => reply.rowsOf.bind (firstRow accountOfRow)
  | .listEntries _, reply => reply.rowsOf.bind fun rows => rows.mapM entryOfRow
  | .getAccounts _, reply => reply.rowsOf.bind fun rows => rows.mapM accountOfRow
  | .createAccount _, reply => reply.rowsOf.bind (inserted accountOfRow)
  | .append _, reply => reply.rowsOf.bind (inserted entryOfRow)
  | .debit _ _ _, reply => reply.affectedOf
  | .credit _ _ _, reply => reply.affectedOf
  | .begin, reply => reply.doneOf
  | .commit, reply => reply.doneOf
  | .rollback, reply => reply.doneOf

def received (c : Call) (reply : Reply) : Except StoreError c.Reply :=
  (decoded c reply).mapError SqlError.toStoreError

namespace Connection

def answer (conn : Connection) (c : Call) : Except StoreError c.Reply × Connection :=
  let (reply, conn) := conn.exchange (wire c)
  (received c reply, conn)

def run {α : Type} : Program α → Connection → α × Connection
  | .done a, conn => (a, conn)
  | .log line rest, conn => run rest { conn with log := line :: conn.log }
  | .clock next, conn => run (next conn.clock) conn
  | .call c next, conn =>
    let (reply, conn) := conn.answer c
    run (next reply) conn

end Connection
end DoubleEntry.Sql
