import DoubleEntry.Proofs.Program.Solo
import DoubleEntry.Store.Process

/-!
One turn of a process on a shared store. Whatever an orderly program has done so far, it stands where it would
stand by itself on the committed book, or a failure has sent it to its rollback. When it comes to its end in a
turn, its answer and what it publishes are those of the whole program by itself at that moment.
-/

set_option autoImplicit false

namespace DoubleEntry.Store

open Time (Stamp)

-- The lock is free, or the process has it.
def Admits (s : Store) (id : Nat) : Prop := s.owner = none ∨ s.owner = some (.process id)

-- What a process does to the store that others see. Without the lock it changes nothing there.
structure Leaves (id : Nat) (s later : Store) : Prop where
  clock : later.clock = s.clock
  control : later.control = s.control
  extended : s.committed.Extends later.committed
  locked : s.Admits id ∨ later.owner = s.owner ∧ later.committed = s.committed

theorem leaves_refl (id : Nat) (s : Store) : Leaves id s s :=
  ⟨rfl, rfl, Book.extends_refl _, .inr ⟨rfl, rfl⟩⟩

theorem leaves_admits (id : Nat) (s later : Store) (leaves : Leaves id s later) (admits : later.Admits id) :
    s.Admits id := by
  rcases leaves.locked with free | ⟨owner, _⟩
  · exact free
  · simpa only [Admits, owner] using admits

theorem leaves_trans (id : Nat) (s mid later : Store) (first : Leaves id s mid) (second : Leaves id mid later) :
    Leaves id s later := by
  refine ⟨second.clock.trans first.clock, second.control.trans first.control,
    Book.extends_trans _ _ _ first.extended second.extended, ?_⟩
  rcases second.locked with free | ⟨owner, committed⟩
  · exact .inl (leaves_admits id s mid first free)
  · rcases first.locked with free | ⟨ownerMid, committedMid⟩
    · exact .inl free
    · exact .inr ⟨owner.trans ownerMid, committed.trans committedMid⟩

@[simp] theorem release_committed (s : Store) : s.release.committed = s.committed := by
  rw [release]
  split <;> rfl

@[simp] theorem release_clock (s : Store) : s.release.clock = s.clock := by
  rw [release]
  split <;> rfl

@[simp] theorem release_control (s : Store) : s.release.control = s.control := by
  rw [release]
  split <;> rfl

theorem leaves_of_admits (id : Nat) (s later : Store) (admits : s.Admits id) (clock : later.clock = s.clock)
    (control : later.control = s.control) (extended : s.committed.Extends later.committed) : Leaves id s later :=
  ⟨clock, control, extended, .inl admits⟩

theorem leaves_release (id : Nat) (s : Store) (admits : s.Admits id) : Leaves id s s.release :=
  leaves_of_admits id s _ admits (release_clock s) (release_control s)
    (by rw [release_committed]; exact Book.extends_refl _)

theorem withdraw_leaves (id : Nat) (s : Store) : Leaves id s (s.withdraw id) := by
  rw [withdraw]
  by_cases own : s.holds (.process id) = true
  · rw [if_pos own]
    exact leaves_release id s (.inr (by simpa [holds] using own))
  · rw [if_neg own]
    exact ⟨rfl, rfl, Book.extends_refl _, .inr ⟨rfl, rfl⟩⟩

@[simp] theorem withdraw_committed (s : Store) (id : Nat) : (s.withdraw id).committed = s.committed := by
  rw [withdraw]
  split
  · exact release_committed s
  · rfl

@[simp] theorem enqueue_committed (s : Store) (id : Nat) (wait : Wait) : (s.enqueue id wait).committed = s.committed := by
  cases wait with
  | queued =>
      rw [enqueue]
      split <;> rfl
  | fresh | asleep wake => rfl

@[simp] theorem close_committed (s : Store) (keep : Option String) (unit : Option Book) :
    (Process.close s keep unit).committed = s.committed := by
  cases unit with
  | none => rfl
  | some book =>
      cases keep with
      | none => exact release_committed s
      | some name => rfl

theorem abandon_committed {α : Type} (s : Store) (id : Nat) (p : Process α) : (p.abandon s id).committed = s.committed := by
  cases p with
  | running r => exact withdraw_committed s id
  | waiting job | finished a time => rfl

theorem perform_work (s : Store) (id : Nat) (unit : Option Book) (c : Call) (isWork : c.isWork = true) :
    s.perform id unit c =
      ((unit.getD s.committed).answer c).map fun (reply, book) => (reply, some book, s) := by
  cases c with
  | getAccounts ids | createAccount account | debit id amount now | credit id amount now | append e => rfl
  | getAccount id | listEntries id | begin | commit | rollback => cases isWork

theorem enter_work_cases (s : Store) (id : Nat) (c : Call) :
    s.enterWork id c = .go ∧ (c.needsLock = true → s.Admits id) ∨ ∃ wait, s.enterWork id c = .wait wait := by
  rw [enterWork]
  by_cases free : (!c.needsLock || s.owner.isNone || s.holds (.process id)) = true
  · refine .inl ⟨if_pos free, ?_⟩
    intro needs
    simpa [needs, holds, Admits] using free
  · exact .inr ⟨.queued, if_neg free⟩

theorem approach_cases (s : Store) (id : Nat) (c : Call) (wait : Wait) :
    (∃ e, s.approach id c wait = .failed e ∧ s.control.failure? c = some e) ∨
      s.approach id c wait = .go ∧ (c.needsLock = true → s.Admits id) ∨
      ∃ later, s.approach id c wait = .wait later := by
  cases wait with
  | fresh =>
      cases failure : s.control.failure? c with
      | some e => exact .inl ⟨e, by simp only [approach, failure], rfl⟩
      | none =>
          right
          simp only [approach, failure]
          split
          · exact enter_work_cases s id c
          · exact .inr ⟨_, rfl⟩
  | asleep wake =>
      right
      simp only [approach]
      split
      · exact enter_work_cases s id c
      · exact .inr ⟨_, rfl⟩
  | queued =>
      right
      simp only [approach]
      by_cases own : s.holds (.process id) = true
      · exact .inl ⟨if_pos own, fun _ => .inr (by simpa [holds] using own)⟩
      · exact .inr ⟨_, if_neg own⟩

end DoubleEntry.Store

namespace DoubleEntry

theorem failure_injected (k : Control) (c : Call) (e : StoreError) (failure : k.failure? c = some e) : k.faults ≠ [] := by
  intro calm
  rw [k.calm_passes calm] at failure
  cases failure

theorem injected_failure (k : Control) (c : Call) (e : StoreError) (failure : k.failure? c = some e) :
    c.isRead = false ∧ ∃ detail, e = .backend detail := by
  obtain ⟨point, found, rfl⟩ := Option.map_eq_some_iff.mp failure
  refine ⟨?_, _, rfl⟩
  cases c with
  | getAccount id => simp [Call.failPoint?] at found
  | listEntries id => simp [Call.failPoint?] at found
  | begin | getAccounts ids | createAccount account | debit id amount now | credit id amount now | append e |
    commit | rollback => rfl

end DoubleEntry
