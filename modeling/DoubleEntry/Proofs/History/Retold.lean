import DoubleEntry.Proofs.History.Requests
import Mathlib.Data.List.Induction

/-!
Requests in histories, against the operations behind them. Where each request is replaced by the operation that it asks
for, a history goes the same way, turn by turn: the books are the same after every event, and a request is answered at
the same event as its operation, with what tells the outcome.
-/

set_option autoImplicit false

namespace DoubleEntry

open Session (Answer)

def Demand.bare : Demand → Demand
  | operation o => operation o
  | request r =>
    match Http.operation? r with
    | some o => operation o
    | none => request r

theorem bare_asks (r : Http.Request) (o : Ledger.Operation) (bare : (Demand.request r).bare = .operation o) :
    Http.operation? r = some o := by
  rw [Demand.bare] at bare
  cases asks : Http.operation? r with
  | none =>
      rw [asks] at bare
      cases bare
  | some other =>
      rw [asks] at bare
      cases bare
      rfl

-- What becomes of the answer to the operation.
def Demand.retells : Demand → Answer → Answer
  | operation _ => id
  | request r =>
    match Http.operation? r with
    | some o => Http.retold r o
    | none => id

def Event.bare : Event → Event
  | ask limit d => ask limit d.bare
  | e => e

theorem task_mirrors_itself {α : Type} (t : Task α) : t.Mirrors id t := by
  have closed := task_mirrors_bind id t Program.done Program.done fun a => ⟨a, .done a, .done a⟩
  obtain ⟨body, deadline⟩ := t
  cases deadline <;> simpa only [Task.bind, Program.bind_done, Option.map_none, Option.map_some] using closed

theorem demand_mirrors (limit : Option Nat) (d : Demand) : (d.bare.task limit).Mirrors d.retells (d.task limit) := by
  cases d with
  | operation o => exact task_mirrors_itself _
  | request r =>
      rw [Demand.bare, Demand.retells]
      cases asks : Http.operation? r with
      | some o => exact Http.request_mirrors limit r o asks
      | none => exact task_mirrors_itself _

theorem retells_other (d : Demand) (a : Answer) (other : ∀ outcome, a ≠ .outcome outcome) : d.retells a = a := by
  cases d with
  | operation o => rfl
  | request r =>
      rw [Demand.retells]
      cases Http.operation? r with
      | none => rfl
      | some o =>
          cases a with
          | outcome outcome => exact absurd rfl (other outcome)
          | reply | dropped | changed | noUnit | refused | response | together | blocked => rfl

theorem retells_refused (d : Demand) (e : ArithmeticError) : d.retells (.refused e) = .refused e := by
  apply retells_other
  rintro _ ⟨⟩

theorem retells_blocked (d : Demand) : d.retells .blocked = .blocked := by
  apply retells_other
  rintro _ ⟨⟩

structure Record.Retold (own told : Record) : Prop where
  id : told.id = own.id
  demand : own.demand = told.demand.bare
  answer : told.answer = told.demand.retells own.answer
  started : told.started = own.started
  ended : told.ended = own.ended

namespace History

structure Mirrors (own told : History) : Prop where
  store : ∃ log, told.system.store = own.system.store.relog log
  demands : own.demands = told.demands.map fun asked => (asked.1.bare, asked.2)
  count : told.demands.length = told.system.processes.length
  same : own.system.processes.length = told.system.processes.length
  processes : ∀ (id : Nat) (d : Demand) (started : Nat) (p q : Process Answer),
    told.demands[id]? = some (d, started) → own.system.processes[id]? = some p → told.system.processes[id]? = some q →
    p.Mirrors d.retells q
  records : List.Forall₂ Record.Retold own.records told.records
  moment : told.moment = own.moment

section Steps

variable (own told : History) (mirrors : Mirrors own told)

include mirrors

theorem found_mirrors (id : Nat) :
    (own.system.processes[id]? = none ∧ told.system.processes[id]? = none) ∨
      ∃ d started p q, own.demands[id]? = some (d.bare, started) ∧ told.demands[id]? = some (d, started) ∧
        own.system.processes[id]? = some p ∧ told.system.processes[id]? = some q ∧ p.Mirrors d.retells q := by
  by_cases bound : id < told.system.processes.length
  · have ownBound : id < own.system.processes.length := by
      rw [mirrors.same]
      exact bound
    have asker : id < told.demands.length := by
      rw [mirrors.count]
      exact bound
    have asked := List.getElem?_eq_getElem asker
    have bare : own.demands[id]? = some (told.demands[id].1.bare, told.demands[id].2) := by
      rw [mirrors.demands, List.getElem?_map, asked, Option.map_some]
    have first := List.getElem?_eq_getElem ownBound
    have second := List.getElem?_eq_getElem bound
    exact .inr ⟨_, _, _, _, bare, asked, first, second, mirrors.processes id _ _ _ _ asked first second⟩
  · have ownBound : own.system.processes.length ≤ id := by
      rw [mirrors.same]
      exact Nat.le_of_not_lt bound
    exact .inl ⟨List.getElem?_eq_none ownBound, List.getElem?_eq_none (Nat.le_of_not_lt bound)⟩

theorem store_mirrors (s later : Store) (alike : ∃ log, later = s.relog log) :
    Mirrors ⟨⟨s, own.system.processes⟩, own.demands, own.records, own.moment + 1⟩
      ⟨⟨later, told.system.processes⟩, told.demands, told.records, told.moment + 1⟩ :=
  ⟨alike, mirrors.demands, mirrors.count, mirrors.same, mirrors.processes, mirrors.records,
    congrArg (· + 1) mirrors.moment⟩

theorem set_mirrors (id : Nat) (d : Demand) (started : Nat) (asked : told.demands[id]? = some (d, started))
    (x y : Process Answer × Store) (alike : Alike (Process.Mirrors d.retells) x y) (ownNews toldNews : List Record)
    (news : List.Forall₂ Record.Retold ownNews toldNews) :
    Mirrors ⟨⟨x.2, own.system.processes.set id x.1⟩, own.demands, own.records ++ ownNews, own.moment + 1⟩
      ⟨⟨y.2, told.system.processes.set id y.1⟩, told.demands, told.records ++ toldNews, told.moment + 1⟩ := by
  refine ⟨alike.2, mirrors.demands, ?_, ?_, ?_, List.rel_append mirrors.records news, congrArg (· + 1) mirrors.moment⟩
  · simp only [List.length_set]
    exact mirrors.count
  · simp only [List.length_set]
    exact mirrors.same
  · intro other e since p q askedOther first second
    by_cases place : id = other
    · subst place
      cases asked.symm.trans askedOther
      have bound := (List.getElem?_eq_some_iff.mp second).1
      have ownBound := (List.getElem?_eq_some_iff.mp first).1
      rw [List.length_set] at bound ownBound
      rw [List.getElem?_set_self ownBound] at first
      rw [List.getElem?_set_self bound] at second
      cases first
      cases second
      exact alike.1
    · rw [List.getElem?_set_ne place] at first second
      exact mirrors.processes other e since p q askedOther first second

theorem ask_mirrors (limit : Option Nat) (d : Demand) :
    Mirrors (own.step (.ask limit d.bare)) (told.step (.ask limit d)) := by
  refine ⟨mirrors.store, ?_, ?_, ?_, ?_, mirrors.records, congrArg (· + 1) mirrors.moment⟩
  · simp only [step, List.map_append, List.map_cons, List.map_nil, mirrors.demands, mirrors.moment]
  · simp only [step, List.length_append, List.length_singleton, mirrors.count]
  · simp only [step, List.length_append, List.length_singleton, mirrors.same]
  · intro id e started p q asked first second
    simp only [step] at first second
    rcases found_last _ _ _ id asked with old | ⟨place, new⟩
    · have bound := (List.getElem?_eq_some_iff.mp old).1
      rw [mirrors.count] at bound
      rw [List.getElem?_append_left bound] at second
      rw [List.getElem?_append_left (by rw [mirrors.same]; exact bound)] at first
      exact mirrors.processes id e started p q old first second
    · rw [place, mirrors.count, List.getElem?_concat_length] at second
      rw [place, mirrors.count, ← mirrors.same, List.getElem?_concat_length] at first
      cases new
      cases first
      cases second
      exact .waiting _ _ (demand_mirrors limit d)

theorem turn_mirrors (id : Nat) : Mirrors (own.step (.poll id)) (told.step (.poll id)) := by
  rcases found_mirrors own told mirrors id with ⟨first, second⟩ | ⟨d, started, p, q, bare, asked, first, second, here⟩
  · have nobody : own.answered id = [] ∧ told.answered id = [] := by simp only [answered, first, second, and_self]
    simp only [step, System.step, first, second, nobody, List.append_nil]
    exact store_mirrors own told mirrors _ _ mirrors.store
  · obtain ⟨log, store⟩ := mirrors.store
    obtain ⟨turn, record⟩ := poll_step own id d.bare started p bare first
    obtain ⟨toldTurn, toldRecord⟩ := poll_step told id d started q asked second
    have alike := poll_mirrors d.retells Answer.refused Answer.refused (retells_refused d) id p q here
      own.system.store log
    have finished := mirrors_finished d.retells p q here
    simp only [step, turn, record, toldTurn, toldRecord, store, finished]
    refine set_mirrors own told mirrors id d started asked _ _ alike _ _ ?_
    have related := alike.1
    generalize (p.poll Answer.refused id own.system.store).1 = after at related ⊢
    generalize (q.poll Answer.refused id (own.system.store.relog log)).1 = toldAfter at related ⊢
    cases related with
    | waiting t u _ | running c next other wait book keep limit toldLimit _ _ => exact .nil
    | finished a time =>
        cases p.isFinished with
        | true => exact .nil
        | false => exact .cons ⟨rfl, rfl, rfl, rfl, mirrors.moment⟩ .nil

theorem drop_mirrors (id : Nat) : Mirrors (own.step (.drop id)) (told.step (.drop id)) := by
  rcases found_mirrors own told mirrors id with ⟨first, second⟩ | ⟨d, started, p, q, bare, asked, first, second, here⟩
  · simp only [step, dropped, first, second]
    exact store_mirrors own told mirrors _ _ mirrors.store
  · obtain ⟨log, store⟩ := mirrors.store
    have finished := mirrors_finished d.retells p q here
    cases done : p.isFinished with
    | true =>
        cases here with
        | waiting t u _ | running c next other wait book keep limit toldLimit _ _ => cases done
        | finished a time =>
            simp only [step, drop_finished own id a time first, drop_finished told id _ time second]
            exact store_mirrors own told mirrors _ _ mirrors.store
    | false =>
        have given : told.system.store.now = own.system.store.now := by
          rw [store]
          rfl
        have ended : (Process.finished Answer.blocked own.system.store.now).Mirrors d.retells
            (.finished .blocked own.system.store.now) := by
          have closed := Process.Mirrors.finished (g := d.retells) Answer.blocked own.system.store.now
          rwa [retells_blocked] at closed
        have left := set_mirrors own told mirrors id d started asked
          (.finished .blocked own.system.store.now, p.abandon own.system.store id)
          (.finished .blocked own.system.store.now, q.abandon told.system.store id)
          ⟨ended, log, by rw [store]; exact mirrors_abandon _ p q here id own.system.store log⟩ [] [] .nil
        simp only [List.append_nil] at left
        simp only [step, drop_step own id p first done, drop_step told id q second (finished.trans done), given]
        exact left

end Steps

theorem step_mirrors (own told : History) (mirrors : Mirrors own told) (e : Event) :
    Mirrors (own.step e.bare) (told.step e) := by
  cases e with
  | ask limit d => exact ask_mirrors own told mirrors limit d
  | poll id => exact turn_mirrors own told mirrors id
  | drop id => exact drop_mirrors own told mirrors id
  | advance time | tick now | control change =>
      obtain ⟨log, store⟩ := mirrors.store
      refine store_mirrors own told mirrors _ _ ⟨log, ?_⟩
      rw [store]
      rfl

/-- A history is that of the operations behind its requests, told to those who made them. -/
theorem requests_refine_operations (start : Store) (events : List Event) :
    Mirrors (run start (events.map Event.bare)) (run start events) := by
  induction events using List.reverseRecOn with
  | nil =>
      refine ⟨⟨start.log, rfl⟩, rfl, rfl, rfl, ?_, .nil, rfl⟩
      intro id d started p q asked
      cases asked
  | append_singleton events e ih =>
      rw [List.map_append, List.map_singleton, run_append, run_append]
      exact step_mirrors _ _ ih e

end History

end DoubleEntry
