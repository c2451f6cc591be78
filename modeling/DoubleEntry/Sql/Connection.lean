import DoubleEntry.Ledger.Error
import DoubleEntry.Ledger.Log
import DoubleEntry.Sql.Schema

/-!
A connection to a database: what is sent over it, and the replies, which are given. A statement that nothing is
said about succeeds with no rows, or with one row changed.
-/

set_option autoImplicit false

namespace DoubleEntry.Sql

open Time (Stamp)

inductive SqlError where
  | query (detail : String)
  | execution (detail : String)
  | connection (detail : String)
  | custom (detail : String)
  | type (detail : String)
  | recordNotFound (detail : String)
  | recordNotInserted
  | server (isQuery : Bool) (state detail : String)
deriving DecidableEq, Repr

namespace SqlError

def serverDetail (detail : String) : String := "error returned from database: " ++ detail

def message : SqlError → String
  | query detail => "Query Error: " ++ detail
  | execution detail => "Execution Error: " ++ detail
  | connection detail => "Connection Error: " ++ detail
  | custom detail => "Custom Error: " ++ detail
  | type detail => "Type Error: " ++ detail
  | recordNotFound detail => "RecordNotFound Error: " ++ detail
  | recordNotInserted => "None of the records are inserted"
  | server true _ detail => "Query Error: " ++ serverDetail detail
  | server false _ detail => "Execution Error: " ++ serverDetail detail

-- The code for a value that has to be unique and is not.
def uniqueViolation : String := "23505"

def toStoreError (e : SqlError) : StoreError :=
  match e with
  | server _ state detail =>
    if state = uniqueViolation then .duplicateKey detail else .backend e.message
  | _ => .backend e.message

end SqlError

inductive Cell where
  | int (n : Int)
  | decimal (d : Decimal)
  | timestamp (m : Time.Moment)
  | text (s : String)
deriving DecidableEq

abbrev Row := List (String × Cell)

inductive Reply where
  | plain
  | rows (rows : List Row)
  | affected (n : Nat)
  | failure (e : SqlError)

def Reply.rowsOf : Reply → Except SqlError (List Row)
  | rows l => .ok l
  | failure e => .error e
  | _ => .ok []

def Reply.affectedOf : Reply → Except SqlError Nat
  | affected n => .ok n
  | failure e => .error e
  | _ => .ok 1

def Reply.doneOf : Reply → Except SqlError Unit
  | failure e => .error e
  | _ => .ok ()

-- What goes over a connection. A query is answered with rows, any other statement with a count.
inductive Sent where
  | begin
  | commit
  | rollback
  -- A unit of work that was dropped.
  | startRollback
  | query (style : Style) (s : Statement)
  | execute (style : Style) (s : Statement)
deriving DecidableEq

structure Connection where
  replies : List Reply
  sent : List Sent
  clock : Stamp
  log : List LogLine

namespace Connection

def start (replies : List Reply) (clock : Stamp) : Connection := ⟨replies, [], clock, []⟩

def note (c : Connection) (sent : Sent) : Connection := { c with sent := sent :: c.sent }

def takeReply (c : Connection) : Reply × Connection :=
  match c.replies with
  | [] => (.plain, c)
  | reply :: rest => (reply, { c with replies := rest })

def query (c : Connection) (style : Style) (s : Statement) : Except SqlError (List Row) × Connection :=
  let (reply, c) := (c.note (.query style s)).takeReply
  (reply.rowsOf, c)

def execute (c : Connection) (style : Style) (s : Statement) : Except SqlError Nat × Connection :=
  let (reply, c) := (c.note (.execute style s)).takeReply
  (reply.affectedOf, c)

-- What frames a unit of work is not scripted.
def exchange (c : Connection) : Sent → Reply × Connection
  | .query style s => (c.note (.query style s)).takeReply
  | .execute style s => (c.note (.execute style s)).takeReply
  | frame => (.plain, c.note frame)

end Connection
end DoubleEntry.Sql
