import DoubleEntry.Proofs.Store.LockLine
import DoubleEntry.Proofs.Store.Poll
import DoubleEntry.Store.Schedule
import Mathlib.Algebra.BigOperators.Group.Finset.Basic
import Mathlib.Algebra.Order.BigOperators.Group.Finset

/-!
No process waits for ever for the others. Whoever comes first in the line can make its next call once its time has
come, and if there is nobody in it, whoever is not done can. Each such turn leaves fewer calls to make. Who is cut off
at a deadline, or given up by its caller, leaves the line.
-/

set_option autoImplicit false

namespace DoubleEntry

variable {α : Type}

-- A process between its turns that has fewer than `n` calls to make before it has begun, and at most `n` from then on.
inductive InPlace (id n : Nat) (line : List Nat) : Process α → Prop
  | waiting (t : Task α) (left : Nat) (orderly : t.Orderly fun _ => True) (fewer : left < n) (within : t.body.Within left)
      (absent : id ∉ line) : InPlace id n line (.waiting (.task t))
  | running (r : Running α) (c : Call) (next : Except StoreError c.Reply → Program α)
      (program : r.program = .call c next) (keeps : r.keep = none)
      (cutOff : ∀ d, r.deadline = some d → ∃ a, d.instead.Closes a) (started : r.wait ≠ .fresh)
      (within : (Program.call c next).Within n) (proper : (Program.call c next).Proper r.book)
      (place : Place id line r.wait r.book) : InPlace id n line (.running r)
  | finished (a : α) (time : Nat) (absent : id ∉ line) : InPlace id n line (.finished a time)

theorem in_place_aside (id other n : Nat) (line later : List Nat) (p : Process α) (different : other ≠ id)
    (aside : Aside id line later) (inPlace : InPlace other n line p) : InPlace other n later p := by
  have absent : other ∉ line → other ∉ later := mt (aside.members other different).mp
  cases inPlace with
  | waiting t left orderly fewer within out => exact .waiting t left orderly fewer within (absent out)
  | running r c next program keeps cutOff started within proper place =>
      exact .running r c next program keeps cutOff started within proper
        (place_aside id other line later r.wait r.book different aside place)
  | finished a time out => exact .finished a time (absent out)

structure Turns (id n : Nat) (line : List Nat) (k : Control) (x : Process α × Store) : Prop where
  control : x.2.control = k
  turn : ∃ later, x.2.Lined later ∧ Aside id line later ∧ InPlace id n later x.1

-- The process can make its call, or has not begun.
def Process.CanProceed (s : Store) (id : Nat) : Process α → Prop
  | waiting _ => True
  | running r => ∀ c next, r.program = .call c next → s.approach id c r.wait = .go
  | finished _ _ => False

section Turn

variable (crashed : ArithmeticError → α) (id n : Nat) (line : List Nat) (s : Store)

theorem cut_off_turns (later : Store) (after : List Nat) (lined : later.Lined after) (instead : Program α) (a : α)
    (closes : instead.Closes a) :
    Turns id n after later.control
      (Process.stopped crashed id none none (Store.run id instead .fresh none (later.withdraw id))) := by
  obtain ⟨last, ended, _, owner, _, control, queue⟩ :=
    run_closes id instead a .fresh none (later.withdraw id) closes
  obtain ⟨rest, withdrawn, absent, aside⟩ := lined_withdraw later id after lined
  rw [ended]
  refine ⟨control.trans (Store.withdraw_leaves id later).control, rest, ?_, aside, .finished a _ absent⟩
  exact lined_congr (later.withdraw id) last rest owner queue withdrawn

theorem resumed_turns (r : Running α) (keeps : r.keep = none)
    (cutOff : ∀ d, r.deadline = some d → ∃ a, d.instead.Closes a)
    (parks : Parks id n line s.control (Store.run id r.program r.wait r.book s)) :
    Turns id n line s.control (Process.resume crashed id r s) := by
  rw [Process.resume]
  cases ran : Store.run id r.program r.wait r.book s with
  | mk stop later =>
      rw [ran] at parks
      obtain ⟨after, lined, aside, park⟩ := parks.park
      have control : later.control = s.control := parks.control
      cases park with
      | finished a absent => exact ⟨control, after, lined, aside, .finished a _ absent⟩
      | crashed e =>
          obtain ⟨last, withdrawn, absent, further⟩ := lined_withdraw later id after lined
          refine ⟨?_, last, withdrawn, aside_trans _ _ _ _ aside further, .finished _ _ absent⟩
          exact (Store.withdraw_leaves id later).control.trans control
      | paused c next wait unit started within proper place =>
          cases due : r.deadline.filter fun d => d.after ≤ later.now with
          | none =>
              simp only [due]
              exact ⟨control, after, lined, aside, .running _ c next rfl keeps cutOff started within proper place⟩
          | some d =>
              obtain ⟨a, closes⟩ := cutOff d (Option.eq_some_of_filter_eq_some due)
              obtain ⟨same, last, withdrawn, further, inPlace⟩ :=
                cut_off_turns crashed id n later after lined d.instead a closes
              simp only [due]
              exact ⟨same.trans control, last, withdrawn, aside_trans _ _ _ _ aside further, inPlace⟩

theorem poll_turns (p : Process α) (lined : s.Lined line) (inPlace : InPlace id n line p) :
    ∃ left ≤ n, (p.CanProceed s id → left < n) ∧ Turns id left line s.control (p.poll crashed id s) := by
  cases inPlace with
  | waiting t left orderly fewer within absent =>
      refine ⟨left, Nat.le_of_lt fewer, fun _ => fewer, ?_⟩
      have parks := run_parks id left t.body within line none s lined (.outside .fresh (by decide) absent) orderly.1
      refine resumed_turns crashed id left line s ⟨t.body, .fresh, none, none, _⟩ rfl ?_ parks
      intro d deadline
      obtain ⟨given, found, rfl⟩ := Option.map_eq_some_iff.mp deadline
      obtain ⟨a, _, closes⟩ := orderly.2 given found
      exact ⟨a, closes⟩
  | running r c next program keeps cutOff started within proper place =>
      cases within with
      | call left _ _ within =>
          obtain ⟨atMost, going⟩ := resumed_parks id left c next within line r.wait r.book s lined place proper
          rw [← program] at atMost going
          by_cases goes : s.approach id c r.wait = .go
          · refine ⟨left, Nat.le_succ left, fun _ => Nat.lt_succ_self left, ?_⟩
            exact resumed_turns crashed id left line s r keeps cutOff (going goes)
          · refine ⟨left + 1, Nat.le_refl _, fun able => absurd (able c next program) goes, ?_⟩
            exact resumed_turns crashed id (left + 1) line s r keeps cutOff atMost
  | finished a time absent =>
      exact ⟨n, Nat.le_refl n, False.elim, rfl, line, lined, aside_refl id line, .finished a time absent⟩

theorem abandon_lined (p : Process α) (lined : s.Lined line) (inPlace : InPlace id n line p) :
    ∃ later, (p.abandon s id).Lined later ∧ id ∉ later ∧ Aside id line later := by
  cases inPlace with
  | waiting t left _ _ _ absent => exact ⟨line, lined, absent, aside_refl id line⟩
  | finished a time absent => exact ⟨line, lined, absent, aside_refl id line⟩
  | running r c next _ _ _ _ _ _ _ => exact lined_withdraw s id line lined

theorem queued_owns (lined : s.Lined line) (admits : s.Admits id) (unit : Option Book)
    (place : Place id line .queued unit) : s.owner = some (.process id) := by
  rcases admits with free | own
  · cases place with
    | queued among =>
        rw [(lined_free s line lined).mp free] at among
        cases among
    | outside _ notQueued _ => exact absurd rfl notQueued
    | inside _ notQueued _ _ => exact absurd rfl notQueued
  · exact own

theorem in_place_proceeds (p : Process α) (unfinished : p.isFinished = false) (lined : s.Lined line) (admits : s.Admits id)
    (inPlace : InPlace id n line p) : ∃ time, p.CanProceed { s with now := max s.now time } id := by
  cases inPlace with
  | waiting t left _ _ _ _ => exact ⟨0, trivial⟩
  | finished a time _ => cases unfinished
  | running r c next program _ _ started _ _ place =>
      cases wait : r.wait with
      | fresh => exact absurd wait started
      | asleep wake =>
          refine ⟨wake, fun c _ _ => ?_⟩
          have entered : ((!c.needsLock || s.owner.isNone || s.holds (.process id)) = true) := by
            rcases admits with free | own
            · simp [free]
            · simp [Store.holds, own]
          rw [wait]
          simp only [Store.approach, if_pos (Nat.le_max_right s.now wake), Store.enterWork]
          exact if_pos entered
      | queued =>
          rw [wait] at place
          have own := queued_owns id line s lined admits r.book place
          refine ⟨0, fun c _ _ => ?_⟩
          rw [wait]
          simp [Store.approach, Store.holds, own]

theorem admitted_ready (p : Process α) (unfinished : p.isFinished = false)
    (lined : s.Lined line) (admits : s.Admits id) (inPlace : InPlace id n line p) :
    p.isReady s id = true ∨ ∃ time, p.nextTime = some time := by
  cases inPlace with
  | waiting t left _ _ _ _ => exact .inl rfl
  | finished a time _ => cases unfinished
  | running r c next _ _ _ started _ _ place =>
      cases wait : r.wait with
      | fresh => exact absurd wait started
      | asleep wake =>
          right
          cases deadline : r.deadline with
          | none => exact ⟨wake, by simp [Process.nextTime, wait, deadline]⟩
          | some d => exact ⟨min wake d.after, by simp [Process.nextTime, wait, deadline]⟩
      | queued =>
          left
          rw [wait] at place
          simp [Process.isReady, wait, Store.holds, queued_owns id line s lined admits r.book place]

end Turn

section Ready

variable (y : System α) (id : Nat) (p : Process α) (found : y.processes[id]? = some p)

include found

theorem any_ready (ready : p.isReady y.store id = true) : y.anyReady = true := by
  have bounded : id < y.processes.length := (List.getElem?_eq_some_iff.mp found).1
  refine List.any_eq_true.mpr ⟨id, List.mem_range.mpr bounded, ?_⟩
  rw [System.isReady, found]
  exact ready

theorem next_time_due (time : Nat) (due : p.nextTime = some time) : ∃ first, y.nextTime = some first := by
  have member : time ∈ y.processes.filterMap Process.nextTime :=
    List.mem_filterMap.mpr ⟨p, List.mem_of_getElem? found, due⟩
  cases next : y.nextTime with
  | some first => exact ⟨first, rfl⟩
  | none =>
      rw [System.nextTime, List.min?_eq_none_iff] at next
      rw [next] at member
      cases member

end Ready

theorem due_ready (s : Store) (id : Nat) (p : Process α) (time : Nat) (due : p.nextTime = some time)
    (reached : time ≤ s.now) : p.isReady s id = true := by
  cases p with
  | waiting job | finished a done => cases due
  | running r =>
      cases wait : r.wait with
      | fresh => simp [Process.isReady, wait]
      | asleep wake =>
          cases deadline : r.deadline with
          | none =>
              simp only [Process.nextTime, wait, deadline, Option.some.injEq] at due
              simp [Process.isReady, wait, due, reached]
          | some d =>
              simp only [Process.nextTime, wait, deadline, Option.some.injEq] at due
              rcases Nat.le_total wake d.after with first | first
              · have woken : wake ≤ s.now := by omega
                simp [Process.isReady, wait, woken]
              · have cut : d.after ≤ s.now := by omega
                simp [Process.isReady, deadline, cut]
      | queued =>
          cases deadline : r.deadline with
          | none => simp [Process.nextTime, wait, deadline] at due
          | some d =>
              simp only [Process.nextTime, wait, deadline, Option.some.injEq] at due
              simp [Process.isReady, deadline, due, reached]

theorem next_time_ready (y : System α) (time : Nat) (next : y.nextTime = some time) :
    (y.moveTo time).anyReady = true := by
  obtain ⟨p, member, due⟩ := List.mem_filterMap.mp (List.min?_mem next)
  obtain ⟨id, bounded, rfl⟩ := List.getElem_of_mem member
  refine any_ready (y.moveTo time) id _ (List.getElem?_eq_getElem bounded) ?_
  exact due_ready _ id _ time due (Nat.le_max_right _ _)

-- All processes are in place, with bounds on the calls that they have to make.
structure Ordered (y : System α) (line : List Nat) (bound : Nat → Nat) : Prop where
  lined : y.store.Lined line
  known : ∀ id ∈ line, id < y.processes.length
  inPlace : ∀ (id : Nat) (p : Process α), y.processes[id]? = some p → InPlace id (bound id) line p

section System

variable (crashed : ArithmeticError → α) (y : System α) (line : List Nat) (bound : Nat → Nat)
    (ordered : Ordered y line bound)

include ordered

theorem ordered_store (store : Store) (owner : store.owner = y.store.owner) (queue : store.queue = y.store.queue) :
    Ordered { y with store } line bound :=
  ⟨lined_congr y.store store line owner queue ordered.lined, ordered.known, ordered.inPlace⟩

theorem ordered_set (id left : Nat) (bounded : id < y.processes.length) (p : Process α) (s : Store) (later : List Nat)
    (lined : s.Lined later) (aside : Aside id line later) (inPlace : InPlace id left later p) :
    Ordered ⟨s, y.processes.set id p⟩ later (Function.update bound id left) := by
  refine ⟨lined, ?_, ?_⟩
  · intro other among
    rw [List.length_set]
    by_cases same : other = id
    · rw [same]
      exact bounded
    · exact ordered.known other ((aside.members other same).mp among)
  · intro other q found
    by_cases same : other = id
    · subst same
      rw [List.getElem?_set_self bounded] at found
      cases found
      rw [Function.update_self]
      exact inPlace
    · rw [List.getElem?_set_ne (Ne.symm same)] at found
      rw [Function.update_of_ne same]
      exact in_place_aside id other _ line later q same aside (ordered.inPlace other q found)

theorem ordered_step (id : Nat) :
    ∃ later after, Ordered (y.step crashed id) later after ∧ (y.step crashed id).store.control = y.store.control ∧
      (y.step crashed id).processes.length = y.processes.length ∧ (∀ other, after other ≤ bound other) ∧
      ∀ p, y.processes[id]? = some p → p.CanProceed y.store id → after id < bound id := by
  cases found : y.processes[id]? with
  | none =>
      have same : y.step crashed id = y := by simp only [System.step, found]
      rw [same]
      exact ⟨line, bound, ordered, rfl, rfl, fun _ => Nat.le_refl _, fun p impossible => by cases impossible⟩
  | some p =>
      obtain ⟨left, most, fewer, control, later, lined, aside, inPlace⟩ :=
        poll_turns crashed id (bound id) line y.store p ordered.lined (ordered.inPlace id p found)
      have bounded : id < y.processes.length := (List.getElem?_eq_some_iff.mp found).1
      have stepped : y.step crashed id =
          ⟨(p.poll crashed id y.store).2, y.processes.set id (p.poll crashed id y.store).1⟩ := by
        simp only [System.step, found]
      rw [stepped]
      refine ⟨later, _, ordered_set y line bound ordered id left bounded _ _ later lined aside inPlace, control,
        List.length_set .., ?_, ?_⟩
      · intro other
        by_cases same : other = id
        · rw [same, Function.update_self]
          exact most
        · rw [Function.update_of_ne same]
      · intro q same goes
        cases same
        rw [Function.update_self]
        exact fewer goes

theorem ordered_owner (owner : Owner) (owned : y.store.owner = some owner) :
    ∃ (id : Nat) (p : Process α), owner = .process id ∧ y.processes[id]? = some p ∧ p.isFinished = false := by
  rw [ordered.lined.owner] at owned
  obtain ⟨id, first, rfl⟩ := Option.map_eq_some_iff.mp owned
  have among := List.mem_of_head? first
  have bounded := ordered.known id among
  have found := List.getElem?_eq_getElem bounded
  refine ⟨id, _, rfl, found, ?_⟩
  have inPlace := ordered.inPlace id _ found
  generalize y.processes[id] = p at inPlace
  cases inPlace with
  | waiting _ _ _ _ _ absent => rfl
  | running _ _ _ _ _ _ _ _ _ _ => rfl
  | finished _ _ absent => exact absurd among absent

theorem ordered_admits (unfinished : y.isFinished = false) :
    ∃ (id : Nat) (p : Process α), y.processes[id]? = some p ∧ p.isFinished = false ∧ y.store.Admits id := by
  cases owned : y.store.owner with
  | none =>
      obtain ⟨p, member, isFinished⟩ : ∃ p ∈ y.processes, p.isFinished = false := by
        simpa [System.isFinished, List.all_eq_false] using unfinished
      obtain ⟨id, bounded, rfl⟩ := List.getElem_of_mem member
      exact ⟨id, _, List.getElem?_eq_getElem bounded, isFinished, .inl owned⟩
  | some owner =>
      obtain ⟨id, p, rfl, found, isUnfinished⟩ := ordered_owner y line bound ordered owner owned
      exact ⟨id, p, found, isUnfinished, .inr owned⟩

/-- While not all processes are done, one of them can go on at some time. -/
theorem ordered_proceeds (unfinished : y.isFinished = false) :
    ∃ (id : Nat) (p : Process α) (time : Nat), y.processes[id]? = some p ∧ p.CanProceed (y.moveTo time).store id := by
  obtain ⟨id, p, found, isUnfinished, admits⟩ := ordered_admits y line bound ordered unfinished
  obtain ⟨time, goes⟩ :=
    in_place_proceeds id _ line y.store p isUnfinished ordered.lined admits (ordered.inPlace id p found)
  exact ⟨id, p, time, found, goes⟩

theorem ordered_ready (unfinished : y.isFinished = false) :
    y.anyReady = true ∨ ∃ time, y.nextTime = some time ∧ (y.moveTo time).anyReady = true := by
  obtain ⟨id, p, found, isUnfinished, admits⟩ := ordered_admits y line bound ordered unfinished
  have inPlace := ordered.inPlace id p found
  rcases admitted_ready id _ line y.store p isUnfinished ordered.lined admits inPlace with ready | ⟨time, due⟩
  · exact .inl (any_ready y id p found ready)
  · obtain ⟨first, next⟩ := next_time_due y id p found time due
    exact .inr ⟨first, next, next_time_ready y first next⟩

theorem ordered_finished (id : Nat) (a : α) (time : Nat) (found : y.processes[id]? = some (.finished a time)) :
    y.store.owner ≠ some (.process id) ∧ id ∉ y.store.queue := by
  cases ordered.inPlace id _ found with
  | finished _ _ absent =>
      refine ⟨fun own => absent (List.mem_of_head? ((lined_own y.store id line ordered.lined).mp own)), ?_⟩
      rw [ordered.lined.queue]
      exact fun behind => absent (List.mem_of_mem_tail behind)

theorem ordered_done (finished : y.isFinished = true) : y.store.owner = none ∧ y.store.queue = [] := by
  cases line with
  | nil => exact ⟨ordered.lined.owner, ordered.lined.queue⟩
  | cons id rest =>
      have own := (lined_own y.store id _ ordered.lined).mpr rfl
      obtain ⟨_, p, _, found, unfinished⟩ := ordered_owner y _ bound ordered _ own
      rw [List.all_eq_true.mp finished p (List.mem_of_getElem? found)] at unfinished
      cases unfinished

end System

end DoubleEntry
