import DoubleEntry.Proofs.History.Progress

/-!
The lock of a store that only demands use. Whatever fails, and whoever is cut off or given up, it is free or with
somebody who is not done; as long as somebody is not done, somebody can go on, now or when the next of them is due; and
in the end it is free.
-/

set_option autoImplicit false

namespace DoubleEntry

open Session (Answer)
open Time (Stamp)

structure System.Unstuck (y : System Answer) : Prop where
  held : ∀ owner, y.store.owner = some owner →
    ∃ (id : Nat) (p : Process Answer), owner = .process id ∧ y.processes[id]? = some p ∧ p.isFinished = false
  goes : y.isFinished = false →
    y.anyReady = true ∨ ∃ time, y.nextTime = some time ∧ (y.moveTo time).anyReady = true
  gone : ∀ (id : Nat) (a : Answer) (time : Nat), y.processes[id]? = some (.finished a time) →
    y.store.owner ≠ some (.process id) ∧ id ∉ y.store.queue
  released : y.isFinished = true → y.store.owner = none ∧ y.store.queue = [] ∧
    ∀ (id : Nat) (name : String), y.store.control.failure? .begin = none → y.store.control.latency = 0 →
      Process.start Answer.refused id y.store (.openUnit name (Session.callOnly .begin)) =
        (.finished (.reply .begin (.ok ())) y.store.now, y.store.leaveUnit name y.store.committed)

theorem free_begins (s : Store) (id : Nat) (name : String) (free : s.owner = none)
    (fine : s.control.failure? .begin = none) (instant : s.control.latency = 0) :
    Process.start Answer.refused id s (.openUnit name (Session.callOnly .begin)) =
      (.finished (.reply .begin (.ok ())) s.now, s.leaveUnit name s.committed) := by
  have going : s.approach id .begin .fresh = .go := by
    simp [Store.approach, fine, instant, Store.enterWork, free]
  simp only [Process.start, Process.resume, Session.callOnly, Store.run, going, Store.perform, Process.stopped,
    Process.close]
  rfl

theorem ordered_unstuck (y : System Answer) (line : List Nat) (bound : Nat → Nat) (ordered : Ordered y line bound) :
    y.Unstuck := by
  refine ⟨ordered_owner y line bound ordered, ordered_ready y line bound ordered,
    ordered_finished y line bound ordered, ?_⟩
  intro finished
  obtain ⟨free, nobody⟩ := ordered_done y line bound ordered finished
  exact ⟨free, nobody, fun id name => free_begins y.store id name free⟩

namespace History

-- Deadlock freedom, in every state that any history of demands comes to, and a way from there to all the answers.
theorem lock_is_never_stuck (now : Stamp) (book : Book) (events : List Event) :
    (run (Store.resting now book) events).system.Unstuck ∧
      ∃ more, (∀ e ∈ more, e.IsTurn) ∧
        (run (Store.resting now book) (events ++ more)).system.isFinished = true ∧
        (run (Store.resting now book) (events ++ more)).system.Unstuck := by
  have unstuck : ∀ events, (run (Store.resting now book) events).system.Unstuck := by
    intro events
    obtain ⟨line, bound, ordered⟩ := run_ordered (Store.resting now book) events rfl rfl
    exact ordered_unstuck _ line bound ordered
  obtain ⟨more, turns, finished⟩ := run_finishes (Store.resting now book) events rfl rfl
  exact ⟨unstuck events, more, turns, finished, unstuck (events ++ more)⟩

end History
end DoubleEntry
