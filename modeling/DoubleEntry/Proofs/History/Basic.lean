import DoubleEntry.Proofs.History.Demand
import DoubleEntry.Store.Schedule

/-!
Histories of one store. Operations and requests come in at any time and take their turns in any order, while time
passes, the clock moves on, trouble comes and goes, and callers lose interest. A history keeps who was answered
what, and the events between which that happened.
-/

set_option autoImplicit false

namespace DoubleEntry

open Session (Answer)
open Time (Stamp)

-- Who was answered what, and the events of the start and of the answer.
structure Record where
  id : Nat
  demand : Demand
  answer : Answer
  started : Nat
  ended : Nat

namespace Record

def tookEffect (r : Record) : Bool := r.demand.isWrite && r.answer.isSuccess

def isTroubled (r : Record) : Bool := r.demand.isWrite && r.answer.isTrouble

end Record

-- Demands executed one after another, each at its reading of the clock.
def serial (book : Book) (records : List (Record × Stamp)) : Book :=
  records.foldl (fun book record => (record.1.demand.alone record.2 book).2) book

inductive Event where
  | ask (limit : Option Nat) (d : Demand)
  | poll (id : Nat)
  | drop (id : Nat)
  | advance (time : Nat)
  | tick (now : Stamp)
  | control (change : Control → Control)

structure History where
  system : System Answer
  demands : List (Demand × Nat)
  records : List Record
  moment : Nat

namespace History

def answered (h : History) (id : Nat) : List Record :=
  match h.system.processes[id]?, h.demands[id]?, (h.system.step Answer.refused id).processes[id]? with
  | some before, some (d, started), some (.finished a _) =>
    if before.isFinished then [] else [⟨id, d, a, started, h.moment⟩]
  | _, _, _ => []

def dropped (id : Nat) (y : System Answer) : System Answer :=
  match y.processes[id]? with
  | none | some (.finished _ _) => y
  | some p => ⟨p.abandon y.store id, y.processes.set id (.finished .blocked y.store.now)⟩

def step (h : History) (e : Event) : History :=
  let next := { h with moment := h.moment + 1 }
  match e with
  | .ask limit d =>
    { next with
      system := ⟨h.system.store, h.system.processes ++ [.waiting (.task (d.task limit))]⟩
      demands := h.demands ++ [(d, h.moment)] }
  | .poll id => { next with system := h.system.step Answer.refused id, records := h.records ++ h.answered id }
  | .drop id => { next with system := dropped id h.system }
  | .advance time => { next with system := h.system.moveTo time }
  | .tick now => { next with system := { h.system with store := { h.system.store with clock := now } } }
  | .control change =>
    { next with
      system := { h.system with store := { h.system.store with control := change h.system.store.control } } }

def run (start : Store) (events : List Event) : History := events.foldl step ⟨⟨start, []⟩, [], [], 0⟩

def storeAt (start : Store) (events : List Event) (moment : Nat) : Store :=
  (run start (events.take moment)).system.store

theorem found_last {α : Type} (l : List α) (x y : α) (i : Nat) (found : (l ++ [x])[i]? = some y) :
    l[i]? = some y ∨ i = l.length ∧ x = y := by
  rw [List.getElem?_append] at found
  by_cases old : i < l.length
  · rw [if_pos old] at found
    exact .inl found
  · rw [if_neg old, List.getElem?_singleton] at found
    by_cases last : i - l.length = 0
    · rw [if_pos last] at found
      cases found
      exact .inr ⟨by omega, rfl⟩
    · rw [if_neg last] at found
      cases found

theorem run_append (start : Store) (events : List Event) (e : Event) :
    run start (events ++ [e]) = (run start events).step e := by
  simp only [run, List.foldl_append, List.foldl_cons, List.foldl_nil]

theorem store_at_append (start : Store) (events : List Event) (e : Event) (moment : Nat)
    (within : moment ≤ events.length) : storeAt start (events ++ [e]) moment = storeAt start events moment := by
  simp only [storeAt, List.take_append_of_le_length within]

theorem store_at_end (start : Store) (events : List Event) :
    storeAt start events events.length = (run start events).system.store := by
  simp only [storeAt, List.take_length]

theorem store_around (start : Store) (events : List Event) (e : Event) :
    storeAt start (events ++ [e]) events.length = (run start events).system.store ∧
      storeAt start (events ++ [e]) (events.length + 1) = (run start (events ++ [e])).system.store := by
  constructor
  · rw [store_at_append start events e _ (Nat.le_refl _), store_at_end]
  · rw [← store_at_end, List.length_append, List.length_singleton]

theorem poll_step (h : History) (id : Nat) (d : Demand) (started : Nat) (p : Process Answer)
    (asked : h.demands[id]? = some (d, started)) (found : h.system.processes[id]? = some p) :
    (h.system.step Answer.refused id) =
        ⟨(p.poll Answer.refused id h.system.store).2,
          h.system.processes.set id (p.poll Answer.refused id h.system.store).1⟩ ∧
      h.answered id = match (p.poll Answer.refused id h.system.store).1 with
        | .finished a _ => if p.isFinished then [] else [⟨id, d, a, started, h.moment⟩]
        | _ => [] := by
  have stepped : (h.system.step Answer.refused id) =
      ⟨(p.poll Answer.refused id h.system.store).2,
        h.system.processes.set id (p.poll Answer.refused id h.system.store).1⟩ := by
    simp only [System.step, found]
  refine ⟨stepped, ?_⟩
  have bound : id < h.system.processes.length := (List.getElem?_eq_some_iff.mp found).1
  rw [answered, stepped, List.getElem?_set_self bound, asked, found]
  cases (p.poll Answer.refused id h.system.store).1 <;> rfl

theorem poll_finished (h : History) (id : Nat) (a : Answer) (time : Nat)
    (found : h.system.processes[id]? = some (.finished a time)) :
    h.system.step Answer.refused id = h.system ∧ h.answered id = [] := by
  have same : h.system.step Answer.refused id = h.system := by
    obtain ⟨within, here⟩ := List.getElem?_eq_some_iff.mp found
    simp only [System.step, found, Process.poll]
    rw [← here, List.set_getElem_self]
  refine ⟨same, ?_⟩
  rw [answered, same, found]
  cases h.demands[id]? <;> rfl

theorem drop_finished (h : History) (id : Nat) (a : Answer) (time : Nat)
    (found : h.system.processes[id]? = some (.finished a time)) : dropped id h.system = h.system := by
  rw [dropped, found]

theorem drop_step (h : History) (id : Nat) (p : Process Answer) (found : h.system.processes[id]? = some p)
    (unfinished : p.isFinished = false) :
    dropped id h.system =
      ⟨p.abandon h.system.store id, h.system.processes.set id (.finished .blocked h.system.store.now)⟩ := by
  cases p with
  | waiting job | running r => rw [dropped, found]
  | finished a time => cases unfinished

end History
end DoubleEntry
