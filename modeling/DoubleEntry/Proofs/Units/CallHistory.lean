import DoubleEntry.Proofs.History.Basic
import DoubleEntry.Proofs.Units.Turn
import Mathlib

/-!
Many calls on one store. They come in at any time and take their turns in any order, among them those that open, use and
end units of work, while time passes, trouble comes and goes, and callers lose interest. After every event all units of
work that are open are one, and the event was a call with its effect, or nothing, or took the unit of a caller away.
-/

set_option autoImplicit false

namespace DoubleEntry.Units

open Session (Answer)
open Time (Stamp)

inductive Event where
  | act (a : Act)
  | poll (id : Nat)
  | drop (id : Nat)
  | advance (time : Nat)
  | tick (now : Stamp)
  | control (change : Control → Control)

structure CallHistory where
  system : System Answer
  acts : List Act

namespace CallHistory

def step (h : CallHistory) : Event → CallHistory
  | .act a => ⟨⟨h.system.store, h.system.processes ++ [.waiting a.job]⟩, h.acts ++ [a]⟩
  | .poll id => ⟨h.system.step Answer.refused id, h.acts⟩
  | .drop id => ⟨History.dropped id h.system, h.acts⟩
  | .advance time => ⟨h.system.moveTo time, h.acts⟩
  | .tick now => ⟨{ h.system with store := { h.system.store with clock := now } }, h.acts⟩
  | .control change =>
    ⟨{ h.system with store := { h.system.store with control := change h.system.store.control } }, h.acts⟩

def units (h : CallHistory) : List (String × Book) := h.system.store.openUnits ++ h.system.processes.filterMap inHand

def state (h : CallHistory) : State := ⟨h.units.head?, h.system.store.committed⟩

def Answers (h : CallHistory) (id : Nat) (answer : Answer) : Prop :=
  ∃ p time, h.system.processes[id]? = some p ∧ p.isFinished = false ∧
    (h.system.step Answer.refused id).processes[id]? = some (.finished answer time)

def hands (h : CallHistory) : Hands := fun id => h.system.processes[id]?.bind inHand

structure Sound (h : CallHistory) : Prop where
  held : Held h.system.store h.hands
  count : h.acts.length = h.system.processes.length
  seat : ∀ (id : Nat) (p : Process Answer), h.system.processes[id]? = some p → ∃ a, h.acts[id]? = some a ∧ Seat a p
  order : h.state.InOrder

end CallHistory

theorem only_there {α β : Type} (f : α → Option β) (l : List α) (i : Nat)
    (others : ∀ j, j ≠ i → l[j]?.bind f = none) : l.filterMap f = (l[i]?.bind f).toList := by
  induction l generalizing i with
  | nil => rfl
  | cons head tail ih =>
      cases i with
      | zero =>
          have nowhere : ∀ j, tail[j]?.bind f = none := fun j => others (j + 1) (Nat.succ_ne_zero j)
          have rest := ih 0 fun j _ => nowhere j
          rw [nowhere 0] at rest
          rw [List.filterMap_cons]
          cases found : f head with
          | none => simp [found, rest]
          | some value => simp [found, rest]
      | succ i =>
          have first : f head = none := others 0 (Nat.succ_ne_zero i).symm
          rw [List.filterMap_cons, first]
          exact ih i fun j different => others (j + 1) fun same => different (Nat.succ.inj same)

namespace CallHistory

section States

variable (h : CallHistory)

theorem units_opened (held : Held h.system.store h.hands) :
    h.units = (opened h.system.store h.hands).toList := by
  have nowhere : (∀ id, h.hands id = none) → h.system.processes.filterMap inHand = [] := fun empty => by
    rw [only_there inHand h.system.processes 0 fun j _ => empty j]
    exact congrArg Option.toList (empty 0)
  cases held with
  | free owner units empty =>
      simp only [CallHistory.units, opened, owner, units, nowhere empty, List.append_nil, Option.toList]
  | process id owner units others =>
      have there := only_there inHand h.system.processes id others
      simp only [CallHistory.units, opened, owner, units, there, List.nil_append]
      rfl
  | openUnit name copy owner units empty =>
      simp only [CallHistory.units, opened, owner, units, nowhere empty, List.append_nil, List.head?_cons, Option.toList]

theorem state_opened (held : Held h.system.store h.hands) : h.state = stateOf h.system.store h.hands := by
  rw [state, stateOf, units_opened h held]
  cases opened h.system.store h.hands <;> rfl

theorem hands_set (id : Nat) (p : Process Answer) (s : Store) (bounded : id < h.system.processes.length) :
    hands ⟨⟨s, h.system.processes.set id p⟩, h.acts⟩ = Function.update h.hands id (inHand p) := by
  funext other
  simp only [hands]
  by_cases same : other = id
  · subst same
    rw [Function.update_self, List.getElem?_set_self bounded]
    rfl
  · rw [Function.update_of_ne same, List.getElem?_set_ne (Ne.symm same)]
    rfl

theorem hands_act (a : Act) : hands (h.step (.act a)) = h.hands := by
  funext id
  simp only [hands, step]
  cases found : (h.system.processes ++ [.waiting a.job])[id]? with
  | none =>
      have beyond : h.system.processes.length ≤ id := by
        have whole := List.getElem?_eq_none_iff.mp found
        rw [List.length_append] at whole
        omega
      rw [List.getElem?_eq_none_iff.mpr beyond]
  | some p =>
      rcases History.found_last _ _ _ id found with old | ⟨rfl, rfl⟩
      · rw [old]
      · rw [List.getElem?_eq_none_iff.mpr (Nat.le_refl _)]
        rfl

theorem poll_finished (id : Nat) (p : Process Answer) (found : h.system.processes[id]? = some p)
    (finished : p.isFinished = true) : h.step (.poll id) = h ∧ ∀ answer, ¬ h.Answers id answer := by
  constructor
  · cases p with
    | waiting job | running r => cases finished
    | finished answer time =>
        obtain ⟨_, here⟩ := List.getElem?_eq_some_iff.mp found
        simp only [step, System.step, found, Process.poll]
        rw [← here, List.set_getElem_self]
  · rintro answer ⟨q, time, here, unfinished, _⟩
    rw [found] at here
    cases here
    rw [finished] at unfinished
    cases unfinished

end States

-- What an event is: the turn in which an act is answered, with its effect; one in which nobody is answered and nothing
-- changes; or the end of a unit whose process is given up.
inductive EventEffect (h : CallHistory) (e : Event) : Prop
  | answered (id : Nat) (a : Act) (answer : Answer) (turn : e = .poll id) (asked : h.acts[id]? = some a)
      (answers : h.Answers id answer) (effect : CallEffect a answer h.state (h.step e).state)
  | silent (nobody : ∀ id answer, e = .poll id → ¬ h.Answers id answer) (same : (h.step e).state = h.state)
  | gone (id : Nat) (turn : e = .drop id) (ended : (h.step e).state = ⟨none, h.state.committed⟩)

section Steps

variable (h : CallHistory) (sound : h.Sound)

include sound

theorem store_sound (later : Store) (owner : later.owner = h.system.store.owner)
    (units : later.openUnits = h.system.store.openUnits) (committed : later.committed = h.system.store.committed) :
    Sound ⟨⟨later, h.system.processes⟩, h.acts⟩ ∧ state ⟨⟨later, h.system.processes⟩, h.acts⟩ = h.state := by
  have same : state ⟨⟨later, h.system.processes⟩, h.acts⟩ = h.state := by
    simp only [state, CallHistory.units, units, committed]
  have held : Held later h.hands := held_congr _ _ sound.held later owner units
  exact ⟨⟨held, sound.count, sound.seat, by rw [same]; exact sound.order⟩, same⟩

theorem act_sound (a : Act) : (h.step (.act a)).Sound ∧ (h.step (.act a)).state = h.state := by
  have hands := hands_act h a
  have held : Held (h.step (.act a)).system.store (h.step (.act a)).hands := by
    rw [hands]
    exact sound.held
  have same : (h.step (.act a)).state = h.state := by
    rw [state_opened _ held, state_opened h sound.held, hands]
    rfl
  refine ⟨⟨held, ?_, ?_, by rw [same]; exact sound.order⟩, same⟩
  · simp only [step, List.length_append, List.length_singleton, sound.count]
  · intro id p found
    rcases History.found_last _ _ _ id found with old | ⟨rfl, rfl⟩
    · obtain ⟨own, asked, seat⟩ := sound.seat id p old
      have bounded : id < h.acts.length := (List.getElem?_eq_some_iff.mp asked).1
      exact ⟨own, by rw [step, List.getElem?_append_left bounded]; exact asked, seat⟩
    · refine ⟨a, ?_, .waiting a⟩
      rw [step, ← sound.count]
      exact List.getElem?_concat_length

theorem set_sound (id : Nat) (a : Act) (p : Process Answer) (s : Store) (bounded : id < h.system.processes.length)
    (asked : h.acts[id]? = some a) (seat : Seat a p) (held : Held s (Function.update h.hands id (inHand p)))
    (order : (stateOf s (Function.update h.hands id (inHand p))).InOrder) :
    Sound ⟨⟨s, h.system.processes.set id p⟩, h.acts⟩ ∧
      state ⟨⟨s, h.system.processes.set id p⟩, h.acts⟩ = stateOf s (Function.update h.hands id (inHand p)) := by
  have hands := hands_set h id p s bounded
  have heldNow : Held s (CallHistory.hands ⟨⟨s, h.system.processes.set id p⟩, h.acts⟩) := by
    rw [hands]
    exact held
  have reached := state_opened ⟨⟨s, h.system.processes.set id p⟩, h.acts⟩ heldNow
  rw [hands] at reached
  refine ⟨⟨heldNow, ?_, ?_, by rw [reached]; exact order⟩, reached⟩
  · simp only [List.length_set, sound.count]
  · intro other q found
    by_cases same : id = other
    · subst same
      rw [List.getElem?_set_self bounded] at found
      cases found
      exact ⟨a, asked, seat⟩
    · rw [List.getElem?_set_ne same] at found
      exact sound.seat other q found

theorem poll_unfinished (id : Nat) (p : Process Answer) (found : h.system.processes[id]? = some p)
    (unfinished : p.isFinished = false) : (h.step (.poll id)).Sound ∧ h.EventEffect (.poll id) := by
  obtain ⟨a, asked, seat⟩ := sound.seat id p found
  have bounded : id < h.system.processes.length := (List.getElem?_eq_some_iff.mp found).1
  have stepped : h.system.step Answer.refused id =
      ⟨(p.poll Answer.refused id h.system.store).2,
        h.system.processes.set id (p.poll Answer.refused id h.system.store).1⟩ := by
    simp only [System.step, found]
  have hand : h.hands id = inHand p := by simp only [hands, found, Option.bind_some]
  have before := state_opened h sound.held
  have order : (stateOf h.system.store h.hands).InOrder := by
    rw [← before]
    exact sound.order
  have turned := poll_turned id h.system.store h.hands sound.held a p unfinished seat hand
  generalize p.poll Answer.refused id h.system.store = x at turned stepped
  cases turned with
  | goesOn q later unfinishedNow seatNow held same =>
      obtain ⟨soundNow, reached⟩ :=
        set_sound h sound id a q later bounded asked seatNow held (by rw [same]; exact order)
      rw [← stepped] at soundNow reached
      refine ⟨soundNow, .silent ?_ (reached.trans (same.trans before.symm))⟩
      rintro _ answer ⟨⟩ ⟨_, time, _, _, done⟩
      rw [stepped, List.getElem?_set_self bounded] at done
      cases done
      cases unfinishedNow
  | answered answer time later held effect =>
      obtain ⟨soundNow, reached⟩ := set_sound h sound id a (.finished answer time) later bounded asked
        (.finished a answer time) held (effect_in_order a answer _ _ effect order)
      rw [← stepped] at soundNow reached
      refine ⟨soundNow, .answered id a answer rfl asked ⟨p, time, found, unfinished, ?_⟩ ?_⟩
      · rw [stepped, List.getElem?_set_self bounded]
      · rw [before]
        exact reached.symm ▸ effect

theorem poll_effect (id : Nat) : (h.step (.poll id)).Sound ∧ h.EventEffect (.poll id) := by
  cases found : h.system.processes[id]? with
  | none =>
      have same : h.step (.poll id) = h := by simp only [step, System.step, found]
      refine ⟨by rw [same]; exact sound, .silent ?_ (by rw [same])⟩
      rintro _ answer ⟨⟩ ⟨p, time, here, _⟩
      rw [found] at here
      cases here
  | some p =>
      cases finished : p.isFinished with
      | true =>
          obtain ⟨same, nobody⟩ := poll_finished h id p found finished
          refine ⟨by rw [same]; exact sound, .silent ?_ (by rw [same])⟩
          rintro _ answer ⟨⟩
          exact nobody answer
      | false => exact poll_unfinished h sound id p found finished

theorem drop_effect (id : Nat) : (h.step (.drop id)).Sound ∧ h.EventEffect (.drop id) := by
  have nobody : ∀ other answer, Event.drop id = .poll other → ¬ h.Answers other answer := by
    intro _ _ impossible
    cases impossible
  cases found : h.system.processes[id]? with
  | none =>
      have same : h.step (.drop id) = h := by simp only [step, History.dropped, found]
      exact ⟨by rw [same]; exact sound, .silent nobody (by rw [same])⟩
  | some p =>
      obtain ⟨a, asked, _⟩ := sound.seat id p found
      have bounded : id < h.system.processes.length := (List.getElem?_eq_some_iff.mp found).1
      have hand : h.hands id = inHand p := by simp only [hands, found, Option.bind_some]
      cases finished : p.isFinished with
      | true =>
          have same : h.step (.drop id) = h := by
            cases p with
            | waiting job | running r => cases finished
            | finished answer time => simp only [step, History.dropped, found]
          exact ⟨by rw [same]; exact sound, .silent nobody (by rw [same])⟩
      | false =>
          -- A unit in hand goes with its process, and the lock with the unit.
          have dropped : History.dropped id h.system = ⟨p.abandon h.system.store id,
              h.system.processes.set id (.finished .blocked h.system.store.now)⟩ := by
            cases p with
            | waiting job | running r => rw [History.dropped, found]
            | finished answer time => cases finished
          obtain ⟨held, left⟩ := abandon_held id h.system.store h.hands sound.held p hand
          have before := state_opened h sound.held
          have order : (stateOf (p.abandon h.system.store id) (Function.update h.hands id none)).InOrder := by
            rw [left, ← before]
            split
            · exact ⟨sound.order.committed, fun _ impossible => by cases impossible⟩
            · exact sound.order
          obtain ⟨soundNow, reached⟩ := set_sound h sound id a (.finished .blocked h.system.store.now) _ bounded asked
            (.finished a _ _) held order
          have stepped : h.step (.drop id) = ⟨⟨p.abandon h.system.store id,
              h.system.processes.set id (.finished .blocked h.system.store.now)⟩, h.acts⟩ :=
            congrArg (CallHistory.mk · h.acts) dropped
          rw [← stepped] at soundNow reached
          refine ⟨soundNow, ?_⟩
          rw [show inHand (.finished .blocked h.system.store.now) = none from rfl, left, ← before] at reached
          split at reached
          · exact .gone id rfl reached
          · exact .silent nobody reached

theorem step_effect (e : Event) : (h.step e).Sound ∧ h.EventEffect e := by
  have silent : ∀ e : Event, (∀ id, e ≠ .poll id) → (h.step e).Sound ∧ (h.step e).state = h.state →
      (h.step e).Sound ∧ h.EventEffect e := fun e other result =>
    ⟨result.1, .silent (fun id _ same => absurd same (other id)) result.2⟩
  cases e with
  | act a => exact silent _ (fun _ => Event.noConfusion) (act_sound h sound a)
  | poll id => exact poll_effect h sound id
  | drop id => exact drop_effect h sound id
  | advance time => exact silent _ (fun _ => Event.noConfusion) (store_sound h sound _ rfl rfl rfl)
  | tick now => exact silent _ (fun _ => Event.noConfusion) (store_sound h sound _ rfl rfl rfl)
  | control change => exact silent _ (fun _ => Event.noConfusion) (store_sound h sound _ rfl rfl rfl)

end Steps

end CallHistory

end DoubleEntry.Units
