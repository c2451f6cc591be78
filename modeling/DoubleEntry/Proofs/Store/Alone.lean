import DoubleEntry.Proofs.Store.Turn

/-!
A process that has the store to itself comes to its end in one turn, as its program does by itself.
-/

set_option autoImplicit false

namespace DoubleEntry

-- The lock is free or the process's own, and nobody waits for it.
structure Store.Unshared (s : Store) (id : Nat) : Prop where
  free : s.queue = []
  admits : s.Admits id

-- Nothing is in the way of the process that has the store to itself.
structure Store.Undisturbed (s : Store) (id : Nat) : Prop extends s.Unshared id where
  quiet : s.control = Control.quiet

structure Store.Proceeds (s later : Store) (id : Nat) : Prop where
  clock : later.clock = s.clock
  now : later.now = s.now
  control : later.control = s.control
  unshared : later.Unshared id

theorem unshared_enter (s : Store) (id : Nat) (c : Call) (unshared : s.Unshared id) : s.enterWork id c = .go := by
  have unlocked : (!c.needsLock || s.owner.isNone || s.holds (.process id)) = true := by
    rcases unshared.admits with free | own
    · simp [free]
    · simp [Store.holds, own]
  simp only [Store.enterWork, unlocked, if_true]

theorem undisturbed_approach (s : Store) (id : Nat) (c : Call) (undisturbed : s.Undisturbed id) :
    s.approach id c .fresh = .go := by
  have noFailure := s.control.calm_passes (by rw [undisturbed.quiet]; rfl) c
  have noLatency : s.control.latency = 0 := by rw [undisturbed.quiet]; rfl
  simp only [Store.approach, noFailure, noLatency, if_true, unshared_enter s id c undisturbed.toUnshared]

theorem unshared_release (s : Store) (id : Nat) (unshared : s.Unshared id) : s.Proceeds s.release id := by
  have released : s.release = { s with owner := none } := by simp only [Store.release, unshared.free]
  rw [released]
  exact ⟨rfl, rfl, rfl, unshared.free, .inl rfl⟩

theorem unshared_perform (s : Store) (id : Nat) (unit after : Option Book) (c : Call)
    (reply : Except StoreError c.Reply) (later : Book) (unshared : s.Unshared id)
    (served : Book.serve unit s.committed c = .ok (reply, after, later)) :
    ∃ left, s.perform id unit c = .ok (reply, after, left) ∧ left.committed = later ∧ s.Proceeds left id := by
  have owned : Store.Unshared { s with owner := some (.process id) } id := ⟨unshared.free, .inr rfl⟩
  have read := unshared_release _ id owned
  have written : ∀ book, Store.Unshared { s with committed := book } id := fun book =>
    ⟨unshared.free, unshared.admits⟩
  by_cases isWork : c.isWork = true
  · rw [serve_work unit s.committed c isWork] at served
    rw [Store.perform_work s id unit c isWork]
    cases answered : (unit.getD s.committed).answer c with
    | error e =>
        rw [answered] at served
        cases served
    | ok result =>
        rw [answered] at served
        cases served
        exact ⟨s, rfl, rfl, rfl, rfl, rfl, unshared⟩
  · cases c with
    | getAccount account | listEntries account =>
        cases served
        exact ⟨_, rfl, Store.release_committed _, read.clock, read.now, read.control, read.unshared⟩
    | begin =>
        cases served
        exact ⟨_, rfl, rfl, rfl, rfl, rfl, owned⟩
    | commit =>
        cases served
        have committed := unshared_release _ id (written (unit.getD s.committed))
        exact ⟨_, rfl, Store.release_committed _, committed.clock, committed.now, committed.control, committed.unshared⟩
    | rollback =>
        cases served
        exact ⟨_, rfl, Store.release_committed _, unshared_release s id unshared⟩
    | getAccounts ids | createAccount account | debit id amount now | credit id amount now | append e =>
        cases isWork rfl

theorem undisturbed_run {α : Type} (id : Nat) (p : Program α) (unit : Option Book) (s : Store) (a : α) (later : Book)
    (undisturbed : s.Undisturbed id) (result : p.solo s.clock unit s.committed = .ok (a, later)) :
    ∃ left after, Store.run id p .fresh unit s = (.finished a left, after) ∧ after.committed = later := by
  induction p generalizing unit s with
  | done b =>
      cases result
      exact ⟨unit, s, rfl, rfl⟩
  | log line rest ih =>
      exact ih unit (s.logLine line) ⟨⟨undisturbed.free, undisturbed.admits⟩, undisturbed.quiet⟩ result
  | clock next ih => exact ih s.clock unit s undisturbed result
  | call c next ih =>
      cases served : Book.serve unit s.committed c with
      | error e =>
          simp only [Program.solo, served] at result
          cases result
      | ok done =>
          obtain ⟨reply, after, book⟩ := done
          rw [Program.solo_call s.clock c next unit after s.committed book reply served] at result
          obtain ⟨left, performed, committed, proceeds⟩ :=
            unshared_perform s id unit after c reply book undisturbed.toUnshared served
          unfold Store.run
          rw [undisturbed_approach s id c undisturbed, performed]
          exact ih reply after left ⟨proceeds.unshared, proceeds.control.trans undisturbed.quiet⟩
            (by rw [committed, proceeds.clock]; exact result)

end DoubleEntry
