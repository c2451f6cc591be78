import DoubleEntry.Proofs.History.Requests
import DoubleEntry.Proofs.History.Sound
import DoubleEntry.Proofs.Ledger.Length
import DoubleEntry.Proofs.Store.Progress

/-!
However far a history has come, it can go on until every demand is answered, just by the turns of processes and the
passing of time, whatever was made to fail until then and whoever was cut off or gave up. In calm histories nothing
and nobody was.
-/

set_option autoImplicit false

namespace DoubleEntry

open Session (Answer)

def Event.Calm : Event → Prop
  | .ask limit d => limit = none ∧ ∃ o, d = .operation o
  | .drop _ => False
  | .control change => ∀ k, k.faults = [] → (change k).faults = []
  | .poll _ | .advance _ | .tick _ => True

-- The events of a history in which nothing is made to fail, no demand has a limit and nobody gives up.
def Event.Still : Event → Prop
  | .ask limit _ => limit = none
  | .drop _ => False
  | .control change => ∀ k, k.faults = [] → (change k).faults = []
  | .poll _ | .advance _ | .tick _ => True

theorem calm_still (e : Event) (calm : e.Calm) : e.Still := by
  cases e with
  | ask limit d => exact calm.1
  | drop id | poll id | advance time | tick now | control change => exact calm

-- The events that only let go on what was asked.
def Event.IsTurn : Event → Prop
  | .poll _ | .advance _ => True
  | .ask _ _ | .drop _ | .tick _ | .control _ => False

theorem turn_still (e : Event) (turn : e.IsTurn) : e.Still := by
  cases e with
  | poll id | advance time => trivial
  | ask limit d | drop id | tick now | control change => exact turn.elim

theorem operation_unlimited (o : Ledger.Operation) : ((Demand.operation o).task none).deadline = none := by
  have accounts : ∀ input, (Ledger.createAccount none input).deadline = none := by
    intro input
    rw [Ledger.createAccount]
    split <;> rfl
  have transfers : ∀ input, (Ledger.createTransfer none input).deadline = none := by
    intro input
    rw [Ledger.createTransfer]
    split
    · rfl
    · split <;> rfl
  cases o with
  | createAccount input =>
      simp only [Demand.task, Ledger.Operation.task, Task.map, Task.bind, accounts, Option.map_none]
  | createTransfer input =>
      simp only [Demand.task, Ledger.Operation.task, Task.map, Task.bind, transfers, Option.map_none]
  | getBalance id | listEntries id => rfl

theorem demand_unlimited (d : Demand) : (d.task none).deadline = none := by
  cases d with
  | operation o => exact operation_unlimited o
  | request r =>
      have handled : (Http.handle none r).deadline = none := by
        rw [Http.handle]
        by_cases options : (r.method == "OPTIONS") = true
        · rw [if_pos options]
          rfl
        · have serves := (Http.dispatch_serves none r (eq_false_of_ne_true options)).1
          rw [if_neg options]
          generalize Http.dispatch none r = t at serves
          generalize Http.operation? r = asks at serves
          cases serves with
          | atOnce p response closes nothing => rfl
          | through o t wrap handler succeeded whole orderly closes agrees =>
              have own := operation_unlimited o
              rw [Demand.task, whole] at own
              have free : t.deadline = none := by simpa [Task.map, Task.bind] using own
              simp [Task.logFirst, Task.map, Task.bind, free]
      simp [Demand.task, Task.map, Task.bind, handled]

theorem demand_within (limit : Option Nat) (d : Demand) : (d.task limit).body.Within 7 := by
  have operations : ∀ o, ((Demand.operation o).task limit).body.Within 7 := fun o =>
    Ledger.within_closing 7 _ _ Answer.outcome (Ledger.operation_within limit o) fun _ => .done _
  cases d with
  | operation o => exact operations o
  | request r =>
      cases asks : Http.operation? r with
      | some o => exact Program.mirrors_within _ 7 _ _ (Http.request_mirrors limit r o asks).body (operations o)
      | none =>
          obtain ⟨a, closes⟩ := demand_at_once (.request r) asks
          rw [← demand_body _ limit] at closes
          exact Program.within_mono 0 7 _ (by decide) (Program.within_closes _ a closes)

namespace History

section Calm

variable (start : Store) (events : List Event)

structure Idle : Prop where
  owner : start.owner = none
  queue : start.queue = []
  quiet : start.control.faults = []

theorem ask_ordered (limit : Option Nat) (d : Demand) (line : List Nat) (bound : Nat → Nat)
    (ordered : Ordered (run start events).system line bound) :
    Ordered ((run start events).step (.ask limit d)).system line
      (Function.update bound (run start events).system.processes.length 8) := by
  refine ⟨ordered.lined, ?_, ?_⟩
  · intro id among
    have before := ordered.known id among
    simp only [step, List.length_append, List.length_singleton]
    omega
  · intro id p found
    rcases found_last _ _ _ id found with old | ⟨rfl, rfl⟩
    · have different : id ≠ (run start events).system.processes.length :=
        Nat.ne_of_lt (List.getElem?_eq_some_iff.mp old).1
      rw [Function.update_of_ne different]
      exact ordered.inPlace id p old
    · rw [Function.update_self]
      have orderly := task_orderly_mono _ (fun _ => True) (fun _ _ => trivial) _ (demand_orderly d limit)
      exact .waiting _ 7 orderly (by decide) (demand_within limit d) fun among =>
        Nat.lt_irrefl _ (ordered.known _ among)

theorem drop_ordered (y : System Answer) (line : List Nat) (bound : Nat → Nat) (ordered : Ordered y line bound)
    (id : Nat) : ∃ later, Ordered (dropped id y) later bound := by
  cases found : y.processes[id]? with
  | none => exact ⟨line, by rw [dropped, found]; exact ordered⟩
  | some p =>
      have bounded : id < y.processes.length := (List.getElem?_eq_some_iff.mp found).1
      obtain ⟨later, lined, absent, aside⟩ :=
        abandon_lined id (bound id) line y.store p ordered.lined (ordered.inPlace id p found)
      have left := ordered_set y line bound ordered id (bound id) bounded (.finished .blocked y.store.now) _ later lined
        aside (.finished _ _ absent)
      rw [Function.update_eq_self] at left
      cases p with
      | waiting job | running r => exact ⟨later, by rw [dropped, found]; exact left⟩
      | finished a time => exact ⟨line, by rw [dropped, found]; exact ordered⟩

theorem run_ordered (owner : start.owner = none) (queue : start.queue = []) :
    ∃ line bound, Ordered (run start events).system line bound := by
  induction events using List.reverseRecOn with
  | nil =>
      refine ⟨[], fun _ => 0, ⟨owner, queue, List.nodup_nil⟩, ?_, ?_⟩
      · intro id among
        cases among
      · intro id p found
        cases found
  | append_singleton events e ih =>
      obtain ⟨line, bound, ordered⟩ := ih
      rw [run_append]
      cases e with
      | ask limit d => exact ⟨line, _, ask_ordered start events limit d line bound ordered⟩
      | poll id =>
          obtain ⟨later, after, stepped, _⟩ := ordered_step Answer.refused _ line bound ordered id
          exact ⟨later, after, stepped⟩
      | drop id =>
          obtain ⟨later, left⟩ := drop_ordered _ line bound ordered id
          exact ⟨later, bound, left⟩
      | advance time => exact ⟨line, bound, ordered_store _ line bound ordered _ rfl rfl⟩
      | tick now => exact ⟨line, bound, ordered_store _ line bound ordered _ rfl rfl⟩
      | control change => exact ⟨line, bound, ordered_store _ line bound ordered _ rfl rfl⟩

theorem still_faults (idle : Idle start) (still : ∀ e ∈ events, e.Still) :
    (run start events).system.store.control.faults = [] := by
  induction events using List.reverseRecOn with
  | nil => exact idle.quiet
  | append_singleton events e ih =>
      have quiet := ih fun e member => still e (List.mem_append_left _ member)
      have stillNow := still e (List.mem_append_right _ List.mem_cons_self)
      rw [run_append]
      cases e with
      | ask limit d => exact quiet
      | poll id =>
          obtain ⟨line, bound, ordered⟩ := run_ordered start events idle.owner idle.queue
          obtain ⟨_, _, _, control, _⟩ := ordered_step Answer.refused _ line bound ordered id
          exact (congrArg Control.faults control).trans quiet
      | drop id => cases stillNow
      | advance time => exact quiet
      | tick now => exact quiet
      | control change => exact stillNow _ quiet

theorem still_quiet (idle : Idle start) (still : ∀ e ∈ events, e.Still) : Quiet start events := by
  refine ⟨?_, ?_⟩
  · intro moment _
    exact still_faults start (events.take moment) idle fun e member => still e (List.mem_of_mem_take member)
  · intro limit d asked
    obtain rfl : limit = none := still _ asked
    exact demand_unlimited d

theorem calm_quiet (idle : Idle start) (calm : ∀ e ∈ events, e.Calm) : Quiet start events :=
  still_quiet start events idle fun e member => calm_still e (calm e member)

-- The induction is on the calls that are left to make.
theorem ordered_finishes (left : Nat) (line : List Nat) (bound : Nat → Nat)
    (ordered : Ordered (run start events).system line bound)
    (enough : ∑ id ∈ Finset.range (run start events).system.processes.length, bound id ≤ left) :
    ∃ more, (∀ e ∈ more, e.IsTurn) ∧ (run start (events ++ more)).system.isFinished = true := by
  induction left using Nat.strongRecOn generalizing events line bound with
  | ind left ih =>
      cases unfinished : (run start events).system.isFinished with
      | true =>
          refine ⟨[], ?_, by rw [List.append_nil]; exact unfinished⟩
          intro e among
          cases among
      | false =>
          obtain ⟨id, p, time, found, goes⟩ := ordered_proceeds _ line bound ordered unfinished
          have moved : Ordered ((run start events).system.moveTo time) line bound :=
            ordered_store _ line bound ordered _ rfl rfl
          obtain ⟨later, after, stepped, _, length, most, fewer⟩ := ordered_step Answer.refused _ line bound moved id
          have reached : (run start (events ++ [.advance time, .poll id])).system =
              ((run start events).system.moveTo time).step Answer.refused id := by
            simp only [run, List.foldl_append]
            rfl
          have member : id ∈ Finset.range (run start events).system.processes.length :=
            Finset.mem_range.mpr (List.getElem?_eq_some_iff.mp found).1
          -- The process that is polled has a call less to make, and no other has more.
          have less : ∑ id ∈ Finset.range (run start events).system.processes.length, after id <
              ∑ id ∈ Finset.range (run start events).system.processes.length, bound id :=
            Finset.sum_lt_sum (fun other _ => most other) ⟨id, member, fewer p found goes⟩
          have same : (run start (events ++ [.advance time, .poll id])).system.processes.length =
              (run start events).system.processes.length := by
            rw [reached, length]
            rfl
          obtain ⟨more, turns, finished⟩ := ih _ (Nat.lt_of_lt_of_le less enough) (events ++ [.advance time, .poll id])
            later after (by rw [reached]; exact stepped) (by rw [same])
          refine ⟨[.advance time, .poll id] ++ more, ?_, ?_⟩
          · intro e among
            rcases List.mem_append.mp among with first | rest
            · rcases List.mem_pair.mp first with rfl | rfl <;> trivial
            · exact turns e rest
          · rw [← List.append_assoc]
            exact finished

theorem run_finishes (owner : start.owner = none) (queue : start.queue = []) :
    ∃ more, (∀ e ∈ more, e.IsTurn) ∧ (run start (events ++ more)).system.isFinished = true := by
  obtain ⟨line, bound, ordered⟩ := run_ordered start events owner queue
  exact ordered_finishes start events _ line bound ordered (Nat.le_refl _)

end Calm

end History
end DoubleEntry
