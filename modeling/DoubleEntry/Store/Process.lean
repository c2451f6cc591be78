import DoubleEntry.Store.Shared

/-!
Programs that run side by side on a shared store. A process goes on until it has to wait: for the latency of
a call, after the call's fault check, or for the lock. A call that ends a unit of work gives up the lock even
if it fails. At its deadline a process may still do what is due; then it is cut off and all it held is
dropped.
-/

set_option autoImplicit false

namespace DoubleEntry

inductive Wait where
  | fresh
  | asleep (wake : Nat)
  | queued
deriving DecidableEq, Repr

-- Where a run stops: at its end, before a call, or at a computation that is refused.
inductive Stop (α : Type) where
  | finished (a : α) (book : Option Book)
  | paused (program : Program α) (wait : Wait) (book : Option Book)
  | crashed (e : ArithmeticError)

def Call.needsLock : Call → Bool
  | .getAccount _ | .listEntries _ | .begin => true
  | _ => false

-- How a call fares that is about to be made.
inductive Admission where
  | failed (e : StoreError)
  | wait (wait : Wait)
  | go

namespace Store

-- Work that needs the lock goes on if the lock is free or was handed over.
def enterWork (s : Store) (id : Nat) (c : Call) : Admission :=
  if !c.needsLock || s.owner.isNone || s.holds (.process id) then .go else .wait .queued

def approach (s : Store) (id : Nat) (c : Call) : Wait → Admission
  | .fresh =>
    match s.control.failure? c with
    | some e => .failed e
    | none =>
      if s.control.latency = 0 then s.enterWork id c else .wait (.asleep (s.now + s.control.latency))
  | .asleep wake => if wake ≤ s.now then s.enterWork id c else .wait (.asleep wake)
  | .queued => if s.holds (.process id) then .go else .wait .queued

-- Who starts to wait for the lock joins the queue.
def enqueue (s : Store) (id : Nat) : Wait → Store
  | .queued => if s.queue.contains id then s else { s with queue := s.queue ++ [id] }
  | _ => s

def perform (s : Store) (id : Nat) (book : Option Book) :
    (c : Call) → Except ArithmeticError (Except StoreError c.Reply × Option Book × Store)
  | .getAccount account =>
    .ok (.ok (s.committed.account? account), book, { s with owner := some (.process id) }.release)
  | .listEntries account =>
    .ok (.ok (s.committed.entriesOf account), book, { s with owner := some (.process id) }.release)
  | .begin => .ok (.ok (), some s.committed, { s with owner := some (.process id) })
  | .commit => .ok (.ok (), none, { s with committed := book.getD s.committed }.release)
  | .rollback => .ok (.ok (), none, s.release)
  | c => ((book.getD s.committed).answer c).map fun (reply, book) => (reply, some book, s)

-- A failing call; the end of a unit of work is its end all the same.
def failed (s : Store) (c : Call) (book : Option Book) : Option Book × Store :=
  if c.isEnd then (none, s.release) else (book, s)

variable {α : Type}

def run (id : Nat) : Program α → Wait → Option Book → Store → Stop α × Store
  | .done a, _, book, s => (.finished a book, s)
  | .log line rest, _, book, s => run id rest .fresh book (s.logLine line)
  | .clock next, _, book, s => run id (next s.clock) .fresh book s
  | .call c next, wait, book, s =>
    match s.approach id c wait with
    | .failed e =>
      let (book, s) := s.failed c book
      run id (next (.error e)) .fresh book s
    | .wait wait => (.paused (.call c next) wait book, s.enqueue id wait)
    | .go =>
      match s.perform id book c with
      | .ok (reply, book, s) => run id (next reply) .fresh book s
      | .error e => (.crashed e, s)

end Store

inductive Job (α : Type) where
  | task (t : Task α)
  -- Opens a unit of work and leaves it open under a name.
  | openUnit (name : String) (body : Program α)
  -- Continues a unit of work that is open.
  | onUnit (name : String) (body : Program α) (missing : α)
  | dropUnit (name : String) (dropped missing : α)
  | control (change : Control → Control) (a : α)

structure Running (α : Type) where
  program : Program α
  wait : Wait
  book : Option Book
  -- The name under which the unit of work is left open at the end.
  keep : Option String
  -- The time at which another program takes over.
  deadline : Option (Deadline α)

inductive Process (α : Type) where
  | waiting (job : Job α)
  | running (r : Running α)
  | finished (a : α) (time : Nat)

namespace Process

variable {α : Type}

def isFinished : Process α → Bool
  | finished _ _ => true
  | _ => false

-- The process can go on, or is due to be cut off.
def isReady (s : Store) (id : Nat) : Process α → Bool
  | waiting _ => true
  | finished _ _ => false
  | running r =>
    (match r.wait with
      | .fresh => true
      | .asleep wake => decide (wake ≤ s.now)
      | .queued => s.holds (.process id)) ||
    r.deadline.any fun d => d.after ≤ s.now

def nextTime : Process α → Option Nat
  | waiting _ | finished _ _ => none
  | running r =>
    let wake := match r.wait with
      | .asleep wake => some wake
      | _ => none
    match wake, r.deadline with
    | some wake, some d => some (min wake d.after)
    | some wake, none => some wake
    | none, some d => some d.after
    | none, none => none

-- A unit of work at the end of a run stays open or is dropped.
def close (s : Store) (keep : Option String) : Option Book → Store
  | none => s
  | some book =>
    match keep with
    | some name => s.leaveUnit name book
    | none => s.release

def abandon (s : Store) (id : Nat) : Process α → Store
  | running _ => s.withdraw id
  | _ => s

-- What becomes of a process that has stopped, and at its deadline of what takes over from it.
def stopped (crashed : ArithmeticError → α) (id : Nat) (keep : Option String)
    (deadline : Option (Deadline α)) : Stop α × Store → Process α × Store
  | (.finished a book, s) => (finished a s.now, close s keep book)
  | (.crashed e, s) => (finished (crashed e) s.now, s.withdraw id)
  | (.paused program wait book, s) => (running ⟨program, wait, book, keep, deadline⟩, s)

def resume (crashed : ArithmeticError → α) (id : Nat) (r : Running α) (s : Store) : Process α × Store :=
  match Store.run id r.program r.wait r.book s with
  | (.paused program wait book, s) =>
    match r.deadline.filter fun d => d.after ≤ s.now with
    | some d => stopped crashed id none none (Store.run id d.instead .fresh none (s.withdraw id))
    | none => (running ⟨program, wait, book, r.keep, r.deadline⟩, s)
  | stop => stopped crashed id r.keep r.deadline stop

def start (crashed : ArithmeticError → α) (id : Nat) (s : Store) : Job α → Process α × Store
  | .task t =>
    let deadline := t.deadline.map fun d => { d with after := s.now + d.after }
    resume crashed id ⟨t.body, .fresh, none, none, deadline⟩ s
  | .openUnit name body => resume crashed id ⟨body, .fresh, none, some name, none⟩ s
  | .onUnit name body missing =>
    match s.takeUnit id name with
    | some (book, s) => resume crashed id ⟨body, .fresh, some book, some name, none⟩ s
    | none => (finished missing s.now, s)
  | .dropUnit name dropped missing =>
    match s.dropUnit name with
    | some s => (finished dropped s.now, s)
    | none => (finished missing s.now, s)
  | .control change a => (finished a s.now, { s with control := change s.control })

def poll (crashed : ArithmeticError → α) (id : Nat) (s : Store) : Process α → Process α × Store
  | waiting job => start crashed id s job
  | running r => resume crashed id r s
  | finished a time => (finished a time, s)

end Process
end DoubleEntry
