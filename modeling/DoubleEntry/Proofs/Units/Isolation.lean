import DoubleEntry.Proofs.Units.CallHistory

/-!
Units of work in isolation. There is at most one at a time, nobody sees what it does before it is committed, and nothing
is left of it if it is not.
-/

set_option autoImplicit false

namespace DoubleEntry.Units

open Session (Answer)

def run (events : List Event) : CallHistory := events.foldl CallHistory.step ⟨⟨Store.empty, []⟩, []⟩

def historyAt (events : List Event) (moment : Nat) : CallHistory := run (events.take moment)

def AnsweredAt (events : List Event) (moment id : Nat) (answer : Answer) : Prop :=
  events[moment]? = some (.poll id) ∧ (historyAt events moment).Answers id answer

section Runs

variable (events : List Event) (moment : Nat)

theorem history_next (e : Event) (found : events[moment]? = some e) :
    historyAt events (moment + 1) = (historyAt events moment).step e := by
  obtain ⟨within, here⟩ := List.getElem?_eq_some_iff.mp found
  rw [historyAt, historyAt, List.take_succ_eq_append_getElem within, here, run, run, List.foldl_append]
  rfl

theorem history_over (found : events[moment]? = none) : historyAt events (moment + 1) = historyAt events moment := by
  have ended := List.getElem?_eq_none_iff.mp found
  rw [historyAt, historyAt, List.take_of_length_le ended, List.take_of_length_le (Nat.le_succ_of_le ended)]

theorem start_sound : (run []).Sound := by
  refine ⟨.free rfl rfl fun _ => rfl, rfl, ?_, Book.empty_in_order, ?_⟩
  · intro id p found
    cases found
  · intro unit found
    cases found

theorem history_sound : (historyAt events moment).Sound := by
  induction moment with
  | zero => exact start_sound
  | succ moment ih =>
      cases found : events[moment]? with
      | none =>
          rw [history_over events moment found]
          exact ih
      | some e =>
          rw [history_next events moment e found]
          exact (CallHistory.step_effect _ ih e).1

theorem answered_effect (id : Nat) (answer : Answer) (answered : AnsweredAt events moment id answer) :
    ∃ a, (historyAt events moment).acts[id]? = some a ∧
      CallEffect a answer (historyAt events moment).state (historyAt events (moment + 1)).state := by
  obtain ⟨found, answers⟩ := answered
  rw [history_next events moment _ found]
  cases (CallHistory.step_effect _ (history_sound events moment) (.poll id)).2 with
  | answered other a given turn asked gets effect =>
      cases turn
      obtain ⟨_, _, _, _, first⟩ := answers
      obtain ⟨_, _, _, _, second⟩ := gets
      rw [first] at second
      cases second
      exact ⟨a, asked, effect⟩
  | silent nobody _ => exact absurd answers (nobody id answer rfl)
  | gone other turn _ => cases turn

-- All that can happen to what is committed and to the unit that is open.
inductive Changes : Prop
  | silent (same : (historyAt events (moment + 1)).state = (historyAt events moment).state)
  | answered (id : Nat) (answer : Answer) (answered : AnsweredAt events moment id answer)
  | gone (id : Nat) (turn : events[moment]? = some (.drop id))
      (ended : (historyAt events (moment + 1)).state = ⟨none, (historyAt events moment).state.committed⟩)

theorem history_changes : Changes events moment := by
  cases found : events[moment]? with
  | none => exact .silent (by rw [history_over events moment found])
  | some e =>
      have next := history_next events moment e found
      cases (CallHistory.step_effect _ (history_sound events moment) e).2 with
      | answered id a answer turn _ answers _ => exact .answered id answer ⟨by rw [found, turn], answers⟩
      | silent _ same => exact .silent (by rw [next]; exact same)
      | gone id turn ended => exact .gone id (by rw [found, turn]) (by rw [next]; exact ended)

theorem kept_or_committed :
    (historyAt events (moment + 1)).state.committed = (historyAt events moment).state.committed ∨
      ∃ id answer, AnsweredAt events moment id answer ∧ isCommitted answer = true := by
  cases history_changes events moment with
  | silent same => exact .inl (by rw [same])
  | gone id _ ended => exact .inl (by rw [ended])
  | answered id answer answered =>
      cases success : isCommitted answer with
      | true => exact .inr ⟨id, answer, answered, success⟩
      | false =>
          obtain ⟨a, _, effect⟩ := answered_effect events moment id answer answered
          exact .inl (effect_keeps a answer _ _ effect success)

theorem committed_published (id : Nat) (answer : Answer) (answered : AnsweredAt events moment id answer)
    (success : isCommitted answer = true) :
    ∃ name copy, (historyAt events moment).acts[id]? = some (.call name .commit rfl) ∧
      (historyAt events moment).state.unit = some (name, copy) ∧ (historyAt events (moment + 1)).state = ⟨none, copy⟩ := by
  obtain ⟨a, asked, effect⟩ := answered_effect events moment id answer answered
  obtain ⟨name, copy, rfl, unit, after⟩ := effect_publishes a answer _ _ effect success
  exact ⟨name, copy, asked, unit, after⟩

end Runs

structure Isolated (events : List Event) : Prop where
  single : ∀ moment, (historyAt events moment).units.length ≤ 1
  effects : ∀ moment id answer, AnsweredAt events moment id answer → ∃ a,
    (historyAt events moment).acts[id]? = some a ∧
      CallEffect a answer (historyAt events moment).state (historyAt events (moment + 1)).state
  changes : ∀ moment, Changes events moment
  published : ∀ moment,
    (historyAt events (moment + 1)).state.committed ≠ (historyAt events moment).state.committed →
      ∃ id answer name copy, AnsweredAt events moment id answer ∧ isCommitted answer = true ∧
        (historyAt events moment).acts[id]? = some (.call name .commit rfl) ∧
        (historyAt events moment).state.unit = some (name, copy) ∧
        (historyAt events (moment + 1)).state = ⟨none, copy⟩
  -- From before a unit is opened to behind its last event, unless that is a commit that succeeds.
  discarded : ∀ first last, first ≤ last →
    (∀ moment, first < moment → moment ≤ last → (historyAt events moment).state.unit ≠ none) →
    (∀ id answer, AnsweredAt events last id answer → isCommitted answer = false) →
      (historyAt events (last + 1)).state.committed = (historyAt events first).state.committed
  counted : ∀ moment length, (historyAt events moment).system.store.length? = some length →
    (historyAt events moment).units = [] ∧ length = (historyAt events moment).state.committed.entries.length
  order : ∀ moment, (historyAt events moment).state.committed.InOrder ∧
    ∀ a ∈ (historyAt events moment).state.committed.accounts,
      (historyAt events moment).state.committed.account? a.id = some a

theorem open_keeps (events : List Event) (first last : Nat) (ordered : first ≤ last)
    (opened : ∀ moment, first < moment → moment ≤ last → (historyAt events moment).state.unit ≠ none) :
    (historyAt events last).state.committed = (historyAt events first).state.committed := by
  induction last, ordered using Nat.le_induction with
  | base => rfl
  | succ last reached ih =>
      have before := ih fun moment later within => opened moment later (Nat.le_succ_of_le within)
      rcases kept_or_committed events last with kept | ⟨id, answer, answered, success⟩
      · exact kept.trans before
      · obtain ⟨_, _, _, _, after⟩ := committed_published events last id answer answered success
        exact absurd (by rw [after]) (opened (last + 1) (Nat.lt_succ_of_le reached) (Nat.le_refl _))

-- Isolation, whatever is called in which order, and whatever fails, panics or is given up.
theorem units_are_isolated (events : List Event) : Isolated events := by
  have sound := history_sound events
  refine ⟨?_, answered_effect events, history_changes events, ?_, ?_, ?_, ?_⟩
  · intro moment
    rw [CallHistory.units_opened _ (sound moment).held]
    cases opened (historyAt events moment).system.store (historyAt events moment).hands with
    | none => exact Nat.zero_le 1
    | some unit => exact Nat.le_refl 1
  · intro moment changed
    rcases kept_or_committed events moment with kept | ⟨id, answer, answered, success⟩
    · exact absurd kept changed
    · obtain ⟨name, copy, asked, unit, after⟩ := committed_published events moment id answer answered success
      exact ⟨id, answer, name, copy, answered, success, asked, unit, after⟩
  · intro first last ordered opened other
    rcases kept_or_committed events last with kept | ⟨id, answer, answered, success⟩
    · exact kept.trans (open_keeps events first last ordered opened)
    · rw [other id answer answered] at success
      cases success
  · intro moment length counted
    have free : (historyAt events moment).system.store.owner = none := by
      cases owner : (historyAt events moment).system.store.owner with
      | none => rfl
      | some holder => simp [Store.length?, owner] at counted
    refine ⟨?_, ?_⟩
    · rw [CallHistory.units_opened _ (sound moment).held, opened, free]
      rfl
    · simpa [Store.length?, free, CallHistory.state, eq_comm] using counted
  · intro moment
    have order := (sound moment).order.committed
    exact ⟨order, Book.account_found _ order⟩

end DoubleEntry.Units
