import DoubleEntry.Ledger.Operations

/-!
A store whose replies are given. Each kind of call takes its replies from a list of its own and simply
succeeds when that is used up. A reply may be slow; if the deadline passes while it is awaited, the operation
is cut off and a unit of work that has neither been committed nor rolled back is dropped.
-/

set_option autoImplicit false

namespace DoubleEntry.Scripted

open Time (Stamp)

inductive Kind where
  | getAccount
  | listEntries
  | begin
  | getAccounts
  | createAccount
  | debit
  | credit
  | append
  | commit
  | rollback
deriving DecidableEq, Repr

def Kind.ofCall : Call → Kind
  | .getAccount _ => getAccount
  | .listEntries _ => listEntries
  | .begin => begin
  | .getAccounts _ => getAccounts
  | .createAccount _ => createAccount
  | .debit _ _ _ => debit
  | .credit _ _ _ => credit
  | .append _ => append
  | .commit => commit
  | .rollback => rollback

inductive Value where
  | plain
  | failure (e : StoreError)
  | account (a : Account)
  | accounts (l : List Account)
  | entry (e : Entry)
  | entries (l : List Entry)
  | rows (n : Nat)

structure Reply where
  -- Milliseconds before anything else.
  sleep : Nat
  value : Value

def plainReply : Reply := ⟨0, .plain⟩

-- The success of a call of which nothing more is said.
def plainAnswer : (c : Call) → c.Reply
  | .getAccount _ => none
  | .listEntries _ => []
  | .begin => ()
  | .getAccounts _ => []
  | .createAccount a => a
  | .debit _ _ _ => 1
  | .credit _ _ _ => 1
  | .append e => ⟨1, e.account, e.amount, e.created⟩
  | .commit => ()
  | .rollback => ()

def Value.answer : (c : Call) → Value → Except StoreError c.Reply
  | _, .failure e => .error e
  | .getAccount _, .account a => .ok (some a)
  | .listEntries _, .entries l => .ok l
  | .getAccounts _, .accounts l => .ok l
  | .createAccount _, .account a => .ok a
  | .debit _ _ _, .rows n => .ok n
  | .credit _ _ _, .rows n => .ok n
  | .append _, .entry e => .ok e
  | c, _ => .ok (plainAnswer c)

abbrev Script := List (Kind × Reply)

def takeReply (kind : Kind) : Script → Reply × Script
  | [] => (plainReply, [])
  | (k, reply) :: rest =>
    if k = kind then (reply, rest)
    else
      let (found, rest) := takeReply kind rest
      (found, (k, reply) :: rest)

inductive Act where
  | call (c : Call)
  | drop
deriving DecidableEq

structure State where
  script : Script
  time : Nat
  clock : Stamp
  -- A unit of work is open.
  inUnit : Bool
  acts : List Act
  log : List LogLine

def State.start (script : Script) (clock : Stamp) : State := ⟨script, 0, clock, false, [], []⟩

-- What is left when an operation is cut off.
def State.cut (s : State) (deadline : Nat) : State :=
  { s with
    time := deadline
    inUnit := false
    acts := if s.inUnit then .drop :: s.acts else s.acts }

-- A unit of work is open from a successful begin until its end has been answered.
def opens (c : Call) (before : Bool) {α : Type} (reply : Except StoreError α) : Bool :=
  match c with
  | .begin => reply.isOk
  | .commit | .rollback => false
  | _ => before

variable {α : Type}

-- Runs a program up to its end; `none` if it is cut off.
def run (deadline : Option Nat) : Program α → State → Option α × State
  | .done a, s => (some a, s)
  | .log line rest, s => run deadline rest { s with log := line :: s.log }
  | .clock next, s => run deadline (next s.clock) s
  | .call c next, s =>
    let (reply, script) := takeReply (Kind.ofCall c) s.script
    let s := { s with script, acts := .call c :: s.acts }
    let wake := s.time + reply.sleep
    match deadline.filter fun d => reply.sleep != 0 && d < wake with
    | some d => (none, s.cut d)
    | none =>
      let answer := reply.value.answer c
      run deadline (next answer) { s with time := wake, inUnit := opens c s.inUnit answer }

def runTask (t : Task α) (s : State) : Option α × State :=
  match run (t.deadline.map Deadline.after) t.body s, t.deadline with
  | (none, s), some d => run none d.instead s
  | done, _ => done

end DoubleEntry.Scripted
