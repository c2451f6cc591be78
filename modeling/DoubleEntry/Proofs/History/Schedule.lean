import DoubleEntry.Proofs.History.Books

/-!
The schedule of a session is one of the histories: a batch of demands, then polls in the order in which processes
are ready, and time that moves on between rounds.
-/

set_option autoImplicit false

namespace DoubleEntry.History

open Session (Answer)

-- What a schedule consists of once all demands are made.
inductive Reaches : System Answer → System Answer → Prop
  | refl (y : System Answer) : Reaches y y
  | poll (y z : System Answer) (id : Nat) (rest : Reaches (y.step Answer.refused id) z) : Reaches y z
  | advance (y z : System Answer) (time : Nat) (rest : Reaches (y.moveTo time) z) : Reaches y z

theorem reaches_trans (x y z : System Answer) (first : Reaches x y) (second : Reaches y z) : Reaches x z := by
  induction first with
  | refl x => exact second
  | poll x y id _ ih => exact .poll x z id (ih second)
  | advance x y time _ ih => exact .advance x z time (ih second)

theorem reaches_events (h : History) (z : System Answer) (goes : Reaches h.system z) :
    ∃ events : List Event, (events.foldl step h).system = z := by
  generalize start : h.system = y at goes
  induction goes generalizing h with
  | refl y => exact ⟨[], start⟩
  | poll y z id _ ih =>
      obtain ⟨events, reached⟩ := ih (h.step (.poll id)) (by rw [step, start])
      exact ⟨.poll id :: events, reached⟩
  | advance y z time _ ih =>
      obtain ⟨events, reached⟩ := ih (h.step (.advance time)) (by rw [step, start])
      exact ⟨.advance time :: events, reached⟩

theorem sweep_reaches (ids : List Nat) (y : System Answer) :
    Reaches y (ids.foldl (fun y id => if y.isReady id then y.step Answer.refused id else y) y) := by
  induction ids generalizing y with
  | nil => exact .refl y
  | cons id ids ih =>
      rw [List.foldl_cons]
      by_cases ready : y.isReady id = true
      · rw [if_pos ready]
        exact .poll y _ id (ih _)
      · rw [if_neg ready]
        exact ih y

theorem settle_reaches (fuel : Nat) (y : System Answer) : Reaches y (y.settle Answer.refused fuel) := by
  induction fuel generalizing y with
  | zero => exact .refl y
  | succ fuel ih =>
      rw [System.settle]
      by_cases ready : y.anyReady = true
      · rw [if_pos ready]
        exact reaches_trans y _ _ (sweep_reaches y.ids y) (ih _)
      · rw [if_neg ready]
        exact .refl y

theorem run_until_reaches (limit fuel : Nat) (y : System Answer) : Reaches y (y.runUntil Answer.refused limit fuel) := by
  induction fuel generalizing y with
  | zero => exact .refl y
  | succ fuel ih =>
      have settled := settle_reaches y.rounds y
      unfold System.runUntil
      simp only
      split
      · exact settled
      · exact reaches_trans y _ _ settled (.advance _ _ _ (ih _))

theorem asked_system (limit : Option Nat) (demands : List Demand) (h : History) :
    ((demands.map (Event.ask limit)).foldl step h).system =
      ⟨h.system.store, h.system.processes ++ demands.map fun d => .waiting (.task (d.task limit))⟩ := by
  induction demands generalizing h with
  | nil => simp
  | cons d demands ih =>
      rw [List.map_cons, List.foldl_cons, ih]
      simp [step]

theorem give_up_committed (y : System Answer) : y.giveUp.committed = y.store.committed := by
  rw [System.giveUp]
  generalize y.ids = ids
  generalize y.store = s
  induction ids generalizing s with
  | nil => rfl
  | cons id ids ih =>
      rw [List.foldl_cons, ih]
      cases y.processes[id]? with
      | none => rfl
      | some p =>
          cases p with
          | waiting job | finished a time => rfl
          | running r => exact Store.withdraw_committed s id

-- So all that holds of histories holds of what a session does with a batch.
theorem schedule_is_history (limit : Option Nat) (patience : Nat) (store : Store) (demands : List Demand) :
    ∃ events, (System.run Answer.refused patience store (demands.map fun d => .task (d.task limit))).1 =
        (run store (demands.map (Event.ask limit) ++ events)).system.results ∧
      (System.run Answer.refused patience store (demands.map fun d => .task (d.task limit))).2.committed =
        books store (demands.map (Event.ask limit) ++ events) := by
  have asked : (run store (demands.map (Event.ask limit))).system =
      System.ofJobs store (demands.map fun d => .task (d.task limit)) := by
    rw [run, asked_system]
    simp [System.ofJobs]
  generalize jobs : (demands.map fun d => Job.task (d.task limit)) = batch at asked ⊢
  have goes := run_until_reaches patience (System.ofJobs store batch).rounds (System.ofJobs store batch)
  rw [← asked] at goes
  obtain ⟨events, reached⟩ := reaches_events _ _ goes
  have whole : run store (demands.map (Event.ask limit) ++ events) =
      events.foldl step (run store (demands.map (Event.ask limit))) := List.foldl_append
  refine ⟨events, ?_, ?_⟩
  · rw [whole, System.run, ← asked, ← reached]
  · rw [books, whole, System.run, give_up_committed, ← asked, ← reached]

end DoubleEntry.History
