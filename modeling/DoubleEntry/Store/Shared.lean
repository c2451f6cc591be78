import DoubleEntry.Store.Book
import DoubleEntry.Store.Control

/-!
One book shared by many. A lock admits one unit of work at a time, which changes a copy of its own and
publishes it when it commits; reads take the lock only for a moment. Who finds the lock held waits in a
queue, and a release hands the lock over to the first in it. Time is the store's own and stands still while
work is done.
-/

set_option autoImplicit false

namespace DoubleEntry

open Time (Stamp)

-- Who holds the lock: a process, or a unit of work that was left open under a name.
inductive Owner where
  | process (id : Nat)
  | openUnit (name : String)
deriving DecidableEq, Repr

structure Store where
  committed : Book
  control : Control
  owner : Option Owner
  queue : List Nat
  openUnits : List (String × Book)
  now : Nat
  clock : Stamp
  -- The newest line first.
  log : List LogLine

namespace Store

def empty : Store := ⟨Book.empty, Control.quiet, none, [], [], 0, default, []⟩

def holds (s : Store) (owner : Owner) : Bool := s.owner == some owner

def logLine (s : Store) (line : LogLine) : Store := { s with log := line :: s.log }

-- The lock goes to the first in the queue, or is free.
def release (s : Store) : Store :=
  match s.queue with
  | [] => { s with owner := none }
  | next :: rest => { s with owner := some (.process next), queue := rest }

-- Gives up the lock or the place in the queue for it.
def withdraw (s : Store) (id : Nat) : Store :=
  if s.holds (.process id) then s.release else { s with queue := s.queue.filter (· != id) }

-- How many entries are committed. Who asks has to wait while the lock is held.
def length? (s : Store) : Option Nat := if s.owner.isNone then some s.committed.entries.length else none

def takeUnit (s : Store) (id : Nat) (name : String) : Option (Book × Store) :=
  (s.openUnits.lookup name).map fun book =>
    (book, { s with
      openUnits := s.openUnits.filter fun unit => unit.1 != name
      owner := some (.process id) })

def leaveUnit (s : Store) (name : String) (book : Book) : Store :=
  { s with openUnits := (name, book) :: s.openUnits, owner := some (.openUnit name) }

-- An open unit of work is dropped with all its changes.
def dropUnit (s : Store) (name : String) : Option Store :=
  (s.openUnits.lookup name).map fun _ =>
    release { s with openUnits := s.openUnits.filter fun unit => unit.1 != name }

def dropAllUnits (s : Store) : Store :=
  if s.openUnits.isEmpty then s else release { s with openUnits := [] }

end Store
end DoubleEntry
