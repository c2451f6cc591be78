import DoubleEntry.Proofs.History.Basic
import DoubleEntry.Proofs.Store.Poll
import Mathlib.Data.List.Induction

/-!
What holds after every event of a history. Each process stands where its own turns have brought it, whatever the
others did; and an event either answers nobody and leaves the books alone, or it is the turn in which one demand
comes to its answer, the one that the demand gets alone.
-/

set_option autoImplicit false

namespace DoubleEntry.History

open Session (Answer)
open Time (Stamp)

variable (start : Store) (events : List Event)

-- What the clock showed at a turn of the process since its demand was made.
def Seen (id started : Nat) (now : Stamp) : Prop :=
  ∃ moment, started < moment ∧ events[moment]? = some (.poll id) ∧ (storeAt start events moment).clock = now

-- No call is made to fail, and no demand has a deadline.
structure Quiet : Prop where
  faults : ∀ moment ≤ events.length, (storeAt start events moment).control.faults = []
  unlimited : ∀ limit d, Event.ask limit d ∈ events → (d.task limit).deadline = none

def roleOf (id : Nat) (d : Demand) (started : Nat) : Role Answer where
  id := id
  program := (d.task none).body
  bad := fun a => d.isWrite = true ∧ a.isTrouble = true
  seen := Seen start events id started
  calm := Quiet start events

-- A record, and the reading of the clock at which its demand gets the same answer alone.
structure Answered (r : Record) (now : Stamp) : Prop where
  begun : ∃ limit, events[r.started]? = some (Event.ask limit r.demand)
  turn : events[r.ended]? = some (.poll r.id)
  ordered : r.started < r.ended
  idle : r.tookEffect = false →
    (storeAt start events (r.ended + 1)).committed = (storeAt start events r.ended).committed
  read : r.isTroubled = false → ∃ moment, r.started < moment ∧ moment ≤ r.ended ∧
    events[moment]? = some (.poll r.id) ∧ (storeAt start events moment).clock = now
  alone : r.isTroubled = false → (r.demand.task none).body.solo now none (storeAt start events r.ended).committed =
    .ok (r.answer, (storeAt start events (r.ended + 1)).committed)
  locked : r.isTroubled = false → (∃ a, (r.demand.task none).body.Closes a) ∨
    (storeAt start events r.ended).Admits r.id

structure Sound : Prop where
  moment : (run start events).moment = events.length
  count : (run start events).demands.length = (run start events).system.processes.length
  begun : ∀ (id : Nat) (d : Demand) (started : Nat), (run start events).demands[id]? = some (d, started) →
    ∃ limit, events[started]? = some (Event.ask limit d)
  standing : ∀ (id : Nat) (d : Demand) (started : Nat) (p : Process Answer),
    (run start events).demands[id]? = some (d, started) →
    (run start events).system.processes[id]? = some p →
    ∃ limit, Standing (roleOf start events id d started) (d.task limit) (run start events).system.store p

-- A demand is answered, and changes the books, as its program does by itself, unless the arithmetic refuses it.
def ByItself (e : Event) (r : Record) : Prop :=
  ∃ now,
    (∃ refused, (r.demand.task none).body.solo now none (run start events).system.store.committed = .error refused) ∨
    (r.demand.task none).body.solo now none (run start events).system.store.committed =
      .ok (r.answer, (run start (events ++ [e])).system.store.committed)

inductive Added (e : Event) : Prop
  | nothing (records : (run start (events ++ [e])).records = (run start events).records)
      (kept : (run start (events ++ [e])).system.store.committed = (run start events).system.store.committed)
  | record (r : Record) (now : Stamp)
      (records : (run start (events ++ [e])).records = (run start events).records ++ [r])
      (ended : r.ended = events.length) (answered : Answered start (events ++ [e]) r now)
      (undisturbed : Quiet start (events ++ [e]) → ByItself start events e r)

theorem seen_append (e : Event) (id started : Nat) (now : Stamp) (seen : Seen start events id started now) :
    Seen start (events ++ [e]) id started now := by
  obtain ⟨moment, after, turn, clock⟩ := seen
  have within : moment < events.length := (List.getElem?_eq_some_iff.mp turn).1
  refine ⟨moment, after, ?_, ?_⟩
  · rw [List.getElem?_append_left within]
    exact turn
  · rw [store_at_append start events e moment (Nat.le_of_lt within)]
    exact clock

theorem quiet_append (e : Event) (quiet : Quiet start (events ++ [e])) : Quiet start events := by
  refine ⟨?_, fun limit d asked => quiet.unlimited limit d (List.mem_append_left _ asked)⟩
  intro moment within
  rw [← store_at_append start events e moment within]
  apply quiet.faults moment
  rw [List.length_append]
  exact Nat.le_add_right_of_le within

theorem quiet_before (e : Event) (quiet : Quiet start (events ++ [e])) :
    (run start events).system.store.control.faults = [] := by
  rw [← store_at_end]
  exact (quiet_append start events e quiet).faults events.length (Nat.le_refl _)

theorem begun_append (e : Event) (d : Demand) (started : Nat)
    (begun : ∃ limit, events[started]? = some (Event.ask limit d)) :
    ∃ limit, (events ++ [e])[started]? = some (Event.ask limit d) := by
  obtain ⟨limit, found⟩ := begun
  exact ⟨limit, by rw [List.getElem?_append_left (List.getElem?_eq_some_iff.mp found).1]; exact found⟩

theorem leaves_respects (id other : Nat) (s later : Store) (left : s.Leaves id later) (different : other ≠ id)
    (owned : s.owner = some (.process other)) : later.owner = s.owner ∧ later.committed = s.committed := by
  rcases left.locked with admits | kept
  · rcases admits with free | own
    · rw [free] at owned
      cases owned
    · rw [own] at owned
      cases owned
      exact absurd rfl different
  · exact kept

theorem standing_append (e : Event) (id : Nat) (d : Demand) (started : Nat) (t : Task Answer) (s later : Store)
    (p : Process Answer) (extended : s.committed.Extends later.committed)
    (respected : s.owner = some (.process id) → later.owner = s.owner ∧ later.committed = s.committed)
    (standing : Standing (roleOf start events id d started) t s p) :
    Standing (roleOf start (events ++ [e]) id d started) t later p :=
  standing_others (roleOf start events id d started) _ _ t s later p (seen_append start events e id started)
    (quiet_append start events e) extended respected standing

theorem standing_set (sound : Sound start events) (e : Event) (id : Nat) (p : Process Answer) (later : Store)
    (left : (run start events).system.store.Leaves id later)
    (own : ∀ d started, (run start events).demands[id]? = some (d, started) →
      ∃ limit, Standing (roleOf start (events ++ [e]) id d started) (d.task limit) later p)
    (other : Nat) (d : Demand) (started : Nat) (q : Process Answer)
    (asked : (run start events).demands[other]? = some (d, started))
    (found : ((run start events).system.processes.set id p)[other]? = some q) :
    ∃ limit, Standing (roleOf start (events ++ [e]) other d started) (d.task limit) later q := by
  by_cases same : id = other
  · subst same
    have bound : id < (run start events).system.processes.length := by
      rw [← sound.count]
      exact (List.getElem?_eq_some_iff.mp asked).1
    rw [List.getElem?_set_self bound] at found
    cases found
    exact own d started asked
  · rw [List.getElem?_set_ne same] at found
    obtain ⟨limit, standing⟩ := sound.standing other d started q asked found
    refine ⟨limit, standing_append start events e other d started _ _ later q left.extended ?_ standing⟩
    exact leaves_respects id other _ later left (Ne.symm same)

theorem standing_same (sound : Sound start events) (e : Event) (later : Store)
    (committed : later.committed = (run start events).system.store.committed)
    (owner : later.owner = (run start events).system.store.owner) (id : Nat) (d : Demand) (started : Nat)
    (p : Process Answer) (asked : (run start events).demands[id]? = some (d, started))
    (found : (run start events).system.processes[id]? = some p) :
    ∃ limit, Standing (roleOf start (events ++ [e]) id d started) (d.task limit) later p := by
  obtain ⟨limit, standing⟩ := sound.standing id d started p asked found
  refine ⟨limit, standing_append start events e id d started _ _ later p ?_ (fun _ => ⟨owner, committed⟩) standing⟩
  rw [committed]
  exact Book.extends_refl _

section Turns

variable (id : Nat) (d : Demand) (a : Answer) (started : Nat)
  (begun : ∃ limit, events[started]? = some (Event.ask limit d))

include begun in
theorem begun_before : started < events.length := by
  obtain ⟨limit, asked⟩ := begun
  exact (List.getElem?_eq_some_iff.mp asked).1

include begun in
theorem answered_in_trouble (write : d.isWrite = true) (trouble : a.isTrouble = true)
    (kept : (run start (events ++ [.poll id])).system.store.committed = (run start events).system.store.committed) :
    Answered start (events ++ [.poll id]) ⟨id, d, a, started, events.length⟩ default := by
  obtain ⟨before, after⟩ := store_around start events (.poll id)
  refine ⟨begun_append events _ d started begun, List.getElem?_concat_length, begun_before events d started begun,
    ?_, ?_, ?_, ?_⟩
  · intro _
    rw [before, after]
    exact kept
  all_goals
    intro fine
    rw [Record.isTroubled, write, trouble] at fine
    cases fine

include begun in
theorem answered_of_turn (ending : Ending (roleOf start (events ++ [.poll id]) id d started)
      (run start events).system.store a (run start (events ++ [.poll id])).system.store) :
    ∃ now, Answered start (events ++ [.poll id]) ⟨id, d, a, started, events.length⟩ now ∧
      (Quiet start (events ++ [.poll id]) → ByItself start events (.poll id) ⟨id, d, a, started, events.length⟩) := by
  obtain ⟨before, after⟩ := store_around start events (.poll id)
  cases ending with
  | trouble disturbed isBad kept =>
      exact ⟨_, answered_in_trouble start events id d a started begun isBad.1 isBad.2 kept,
        fun quiet => absurd quiet disturbed⟩
  | alone now seen result locked =>
      refine ⟨now, ⟨begun_append events _ d started begun, List.getElem?_concat_length,
        begun_before events d started begun, ?_, ?_, ?_, ?_⟩, fun _ => ⟨now, .inr result⟩⟩
      · intro noEffect
        rw [before, after]
        rcases demand_effect d now _ a _ result with ⟨o, _, write, success, _⟩ | ⟨_, kept⟩
        · simp only [Record.tookEffect, write, success] at noEffect
          cases noEffect
        · exact kept
      · intro _
        obtain ⟨moment, later, polled, clock⟩ := seen
        have within : moment < (events ++ [Event.poll id]).length := (List.getElem?_eq_some_iff.mp polled).1
        rw [List.length_append, List.length_singleton] at within
        exact ⟨moment, later, Nat.lt_succ_iff.mp within, polled, clock⟩
      · intro _
        rw [before, after]
        exact result
      · intro _
        rw [before]
        exact locked

end Turns

theorem begun_step (sound : Sound start events) (e : Event) (id : Nat) (d : Demand) (started : Nat)
    (asked : (run start events).demands[id]? = some (d, started)) :
    ∃ limit, (events ++ [e])[started]? = some (Event.ask limit d) :=
  begun_append events e d started (sound.begun id d started asked)

theorem sound_step (sound : Sound start events) (e : Event) (later : Store) (processes : List (Process Answer))
    (records : List Record)
    (stepped : (run start events).step e =
      ⟨⟨later, processes⟩, (run start events).demands, records, (run start events).moment + 1⟩)
    (length : processes.length = (run start events).system.processes.length)
    (standing : ∀ (id : Nat) (d : Demand) (started : Nat) (p : Process Answer),
      (run start events).demands[id]? = some (d, started) → processes[id]? = some p →
      ∃ limit, Standing (roleOf start (events ++ [e]) id d started) (d.task limit) later p) :
    Sound start (events ++ [e]) := by
  refine ⟨?_, ?_, ?_, ?_⟩
  · rw [run_append, stepped, List.length_append, sound.moment]
    rfl
  · rw [run_append, stepped, length]
    exact sound.count
  · rw [run_append, stepped]
    exact begun_step start events sound e
  · rw [run_append, stepped]
    exact standing

theorem added_same (e : Event) (later : Store) (processes : List (Process Answer))
    (stepped : (run start events).step e =
      ⟨⟨later, processes⟩, (run start events).demands, (run start events).records, (run start events).moment + 1⟩)
    (committed : later.committed = (run start events).system.store.committed) : Added start events e := by
  refine .nothing ?_ ?_
  · rw [run_append, stepped]
  · rw [run_append, stepped]
    exact committed

theorem sound_same (sound : Sound start events) (e : Event) (later : Store)
    (stepped : (run start events).step e = ⟨⟨later, (run start events).system.processes⟩,
      (run start events).demands, (run start events).records, (run start events).moment + 1⟩)
    (committed : later.committed = (run start events).system.store.committed)
    (owner : later.owner = (run start events).system.store.owner) :
    Sound start (events ++ [e]) ∧ Added start events e :=
  ⟨sound_step start events sound e later _ _ stepped rfl
      (standing_same start events sound e later committed owner),
    added_same start events e later _ stepped committed⟩

theorem sound_ask (sound : Sound start events) (limit : Option Nat) (d : Demand) :
    Sound start (events ++ [.ask limit d]) ∧ Added start events (.ask limit d) := by
  refine ⟨⟨?_, ?_, ?_, ?_⟩, .nothing ?_ ?_⟩
  · rw [run_append, List.length_append, ← sound.moment]
    rfl
  · rw [run_append]
    simp only [step, List.length_append, List.length_singleton, sound.count]
  · intro id asker started asked
    rw [run_append, step] at asked
    rcases found_last _ _ _ id asked with old | ⟨_, new⟩
    · exact begun_step start events sound _ id asker started old
    · cases new
      rw [sound.moment]
      exact ⟨limit, List.getElem?_concat_length⟩
  · intro id asker started p asked found
    rw [run_append, step] at asked found ⊢
    rcases found_last _ _ _ id found with old | ⟨place, new⟩
    · rcases found_last _ _ _ id asked with oldAsked | ⟨place, _⟩
      · exact standing_same start events sound _ _ rfl rfl id asker started p oldAsked old
      · rw [place, sound.count, List.getElem?_eq_none (Nat.le_refl _)] at old
        cases old
    · rw [place, ← sound.count, List.getElem?_concat_length] at asked
      cases asked
      cases new
      exact ⟨limit, .waiting fun quiet => quiet.unlimited limit d (List.mem_append_right _ List.mem_cons_self)⟩
  · rw [run_append]
    rfl
  · rw [run_append]
    rfl

theorem sound_drop (sound : Sound start events) (id : Nat) :
    Sound start (events ++ [.drop id]) ∧ Added start events (.drop id) := by
  have unchanged : dropped id (run start events).system = (run start events).system →
      Sound start (events ++ [.drop id]) ∧ Added start events (.drop id) := fun same =>
    sound_same start events sound _ (run start events).system.store (by rw [step, same]) rfl rfl
  cases found : (run start events).system.processes[id]? with
  | none => exact unchanged (by rw [dropped, found])
  | some p =>
      cases finished : p.isFinished with
      | true =>
          cases p with
          | finished a time => exact unchanged (drop_finished _ id a time found)
          | waiting job | running r => cases finished
      | false =>
          have left : (run start events).system.store.Leaves id (p.abandon (run start events).system.store id) := by
            cases p with
            | waiting job | finished a time => exact Store.leaves_refl id _
            | running r => exact Store.withdraw_leaves id _
          have committed := Store.abandon_committed (run start events).system.store id p
          have stepped : (run start events).step (.drop id) =
              ⟨⟨p.abandon (run start events).system.store id, (run start events).system.processes.set id
                (.finished .blocked (run start events).system.store.now)⟩, (run start events).demands,
                (run start events).records, (run start events).moment + 1⟩ := by
            rw [step, drop_step _ id p found finished]
          refine ⟨sound_step start events sound _ _ _ _ stepped (List.length_set ..) ?_,
            added_same start events _ _ _ stepped committed⟩
          apply standing_set start events sound _ id _ _ left
          exact fun d started _ => ⟨none, .finished _ _⟩

theorem sound_answer (sound : Sound start events) (id : Nat) (d : Demand) (started : Nat) (p : Process Answer)
    (asked : (run start events).demands[id]? = some (d, started))
    (found : (run start events).system.processes[id]? = some p) (unfinished : p.isFinished = false) (a : Answer)
    (time : Nat) (later : Store)
    (polled : p.poll Answer.refused id (run start events).system.store = (.finished a time, later))
    (left : (run start events).system.store.Leaves id later)
    (told : (run start (events ++ [.poll id])).system.store = later →
      ∃ now, Answered start (events ++ [.poll id]) ⟨id, d, a, started, events.length⟩ now ∧
        (Quiet start (events ++ [.poll id]) → ByItself start events (.poll id) ⟨id, d, a, started, events.length⟩)) :
    Sound start (events ++ [.poll id]) ∧ Added start events (.poll id) := by
  obtain ⟨turn, records⟩ := poll_step (run start events) id d started p asked found
  have stepped : (run start events).step (.poll id) =
      ⟨⟨later, (run start events).system.processes.set id (.finished a time)⟩, (run start events).demands,
        (run start events).records ++ [⟨id, d, a, started, events.length⟩], (run start events).moment + 1⟩ := by
    rw [step, turn, records, polled]
    simp only [unfinished, Bool.false_eq_true, if_false, sound.moment]
  refine ⟨sound_step start events sound _ _ _ _ stepped (List.length_set ..) ?_, ?_⟩
  · apply standing_set start events sound _ id _ _ left
    exact fun d started _ => ⟨none, .finished a time⟩
  · obtain ⟨now, answered, undisturbed⟩ := told (by rw [run_append, stepped])
    exact .record _ now (by rw [run_append, stepped]) rfl answered undisturbed

theorem poll_cases (sound : Sound start events) (id : Nat) :
    ((run start events).system.step Answer.refused id = (run start events).system ∧
      (run start events).answered id = []) ∨
    ∃ p d started, (run start events).system.processes[id]? = some p ∧
      (run start events).demands[id]? = some (d, started) ∧ p.isFinished = false := by
  cases found : (run start events).system.processes[id]? with
  | none =>
      refine .inl ⟨by simp only [System.step, found], ?_⟩
      rw [answered, found]
  | some p =>
      have bound : id < (run start events).demands.length := by
        rw [sound.count]
        exact (List.getElem?_eq_some_iff.mp found).1
      cases finished : p.isFinished with
      | true =>
          cases p with
          | waiting job | running r => cases finished
          | finished a time => exact .inl (poll_finished (run start events) id a time found)
      | false => exact .inr ⟨p, _, _, rfl, List.getElem?_eq_getElem bound, finished⟩

theorem sound_poll (sound : Sound start events) (id : Nat) :
    Sound start (events ++ [.poll id]) ∧ Added start events (.poll id) := by
  rcases poll_cases start events sound id with ⟨same, none⟩ | ⟨p, d, started, found, asked, finished⟩
  · exact sound_same start events sound _ (run start events).system.store
      (by rw [step, same, none, List.append_nil]) rfl rfl
  · obtain ⟨turn, records⟩ := poll_step (run start events) id d started p asked found
    obtain ⟨limit, standing⟩ := sound.standing id d started p asked found
    obtain ⟨_, begun⟩ := sound.begun id d started asked
    have shown : Seen start (events ++ [.poll id]) id started (run start events).system.store.clock := by
      refine ⟨events.length, (List.getElem?_eq_some_iff.mp begun).1, List.getElem?_concat_length, ?_⟩
      rw [(store_around start events _).1]
    have standingNow := standing_append start events (.poll id) id d started _ _ _ p
      (Book.extends_refl _) (fun _ => ⟨rfl, rfl⟩) standing
    -- The turn of one process, on the store as all the others have left it.
    have turned := poll_turned Answer.refused (roleOf start (events ++ [Event.poll id]) id d started)
      (d.task limit) (run start events).system.store shown (quiet_before start events _) (demand_orderly d limit)
      (demand_body d limit).symm p finished standingNow
    change Turned Answer.refused _ _ _ (p.poll Answer.refused id (run start events).system.store) at turned
    generalize polled : p.poll Answer.refused id (run start events).system.store = result at turned
    cases turned with
    | answered a time later left ending =>
        refine sound_answer start events sound id d started p asked found finished a time later polled left ?_
        exact fun reached => answered_of_turn start events id d a started (sound.begun id d started asked)
          (by rw [reached]; exact ending)
    | refused e time later left kept fails alone =>
        obtain ⟨_, write, _⟩ := fails
        obtain ⟨now, refused⟩ := alone
        refine sound_answer start events sound id d started p asked found finished _ time later polled left ?_
        exact fun reached => ⟨_, answered_in_trouble start events id d (.refused e) started
          (sound.begun id d started asked) write rfl (by rw [reached]; exact kept),
          fun _ => ⟨now, .inl ⟨e, refused⟩⟩⟩
    | standing q later unfinished left kept standing =>
        have noRecord : (run start events).answered id = [] := by
          rw [records, polled]
          cases q with
          | waiting job | running r => rfl
          | finished a time => cases unfinished
        have stepped : (run start events).step (.poll id) =
            ⟨⟨later, (run start events).system.processes.set id q⟩, (run start events).demands,
              (run start events).records, (run start events).moment + 1⟩ := by
          rw [step, noRecord, List.append_nil, turn, polled]
        refine ⟨sound_step start events sound _ _ _ _ stepped (List.length_set ..) ?_,
          added_same start events _ _ _ stepped kept⟩
        apply standing_set start events sound _ id q later left
        intro d' started' same
        rw [asked] at same
        cases same
        exact ⟨limit, standing⟩

theorem sound_event (sound : Sound start events) (e : Event) :
    Sound start (events ++ [e]) ∧ Added start events e := by
  cases e with
  | ask limit d => exact sound_ask start events sound limit d
  | poll id => exact sound_poll start events sound id
  | drop id => exact sound_drop start events sound id
  | advance time => exact sound_same start events sound _ _ rfl rfl rfl
  | tick now => exact sound_same start events sound _ _ rfl rfl rfl
  | control change => exact sound_same start events sound _ _ rfl rfl rfl

theorem run_sound : Sound start events := by
  induction events using List.reverseRecOn with
  | nil =>
      refine ⟨rfl, rfl, ?_, ?_⟩
      · intro id d started asked
        cases asked
      · intro id d started p asked found
        cases asked
  | append_singleton events e sound => exact (sound_event start events sound e).1

theorem run_added (e : Event) : Added start events e :=
  (sound_event start events (run_sound start events) e).2

end DoubleEntry.History
