import DoubleEntry.Store.Process

/-!
Processes on one store, taking turns. A step lets one process go on; time passes only when none can. The
schedule polls the processes that are ready in list order, round after round, and then moves time on to the
next at which one wakes or is due to be cut off. Work that is not done when time is up is dropped.
-/

set_option autoImplicit false

namespace DoubleEntry

structure System (α : Type) where
  store : Store
  processes : List (Process α)

namespace System

variable {α : Type}

def ofJobs (store : Store) (jobs : List (Job α)) : System α := ⟨store, jobs.map .waiting⟩

def step (crashed : ArithmeticError → α) (id : Nat) (y : System α) : System α :=
  match y.processes[id]? with
  | none => y
  | some p =>
    let (p, store) := p.poll crashed id y.store
    ⟨store, y.processes.set id p⟩

def isReady (y : System α) (id : Nat) : Bool :=
  y.processes[id]?.any fun p => p.isReady y.store id

def isFinished (y : System α) : Bool := y.processes.all Process.isFinished

def ids (y : System α) : List Nat := List.range y.processes.length

def sweep (crashed : ArithmeticError → α) (y : System α) : System α :=
  y.ids.foldl (fun y id => if y.isReady id then y.step crashed id else y) y

def anyReady (y : System α) : Bool := y.ids.any y.isReady

def settle (crashed : ArithmeticError → α) : Nat → System α → System α
  | 0, y => y
  | fuel + 1, y => if y.anyReady then settle crashed fuel (y.sweep crashed) else y

def nextTime (y : System α) : Option Nat := (y.processes.filterMap Process.nextTime).min?

def moveTo (time : Nat) (y : System α) : System α :=
  { y with store := { y.store with now := max y.store.now time } }

-- More rounds than any operation of the ledger can take part in by itself.
def roundsPerProcess : Nat := 64

def rounds (y : System α) : Nat := roundsPerProcess * (y.processes.length + 1)

def runUntil (crashed : ArithmeticError → α) (limit : Nat) : Nat → System α → System α
  | 0, y => y
  | fuel + 1, y =>
    let y := y.settle crashed y.rounds
    if y.isFinished || limit ≤ y.store.now then y
    else runUntil crashed limit fuel (y.moveTo (min limit (y.nextTime.getD limit)))

def giveUp (y : System α) : Store :=
  y.ids.foldl
    (fun store id => (y.processes[id]?.map fun p => p.abandon store id).getD store) y.store

-- Each process's result and the time of it, in list order; `none` if some are not done by `limit`.
def results (y : System α) : Option (List (α × Nat)) :=
  y.processes.mapM fun p =>
    match p with
    | .finished a time => some (a, time)
    | _ => none

def run (crashed : ArithmeticError → α) (limit : Nat) (store : Store) (jobs : List (Job α)) :
    Option (List (α × Nat)) × Store :=
  let y := ofJobs store jobs
  let y := runUntil crashed limit y.rounds y
  (y.results, y.giveUp)

end System
end DoubleEntry
