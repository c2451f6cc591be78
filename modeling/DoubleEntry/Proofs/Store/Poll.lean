import DoubleEntry.Proofs.Store.Stages

/-!
A process from turn to turn. A turn leaves it waiting at the stage that its program has come to, or ends it with an
answer; what others do meanwhile does not change that.
-/

set_option autoImplicit false

namespace DoubleEntry

open Time (Stamp)

variable {α : Type}

theorem run_closes (id : Nat) (p : Program α) (a : α) (wait : Wait) (unit : Option Book) (s : Store)
    (closes : p.Closes a) : ∃ later, Store.run id p wait unit s = (.finished a unit, later) ∧
      later.committed = s.committed ∧ later.owner = s.owner ∧ later.clock = s.clock ∧ later.control = s.control ∧
      later.queue = s.queue := by
  induction closes generalizing wait s with
  | done a => exact ⟨s, rfl, rfl, rfl, rfl, rfl, rfl⟩
  | log line rest a _ ih => exact ih .fresh (s.logLine line)

inductive Standing (role : Role α) (t : Task α) (s : Store) : Process α → Prop
  | waiting (unlimited : role.calm → t.deadline = none) : Standing role t s (.waiting (.task t))
  | running (r : Running α) (keeps : r.keep = none)
      (cutOff : ∀ d, r.deadline = some d → ¬ role.calm ∧ ∃ a, role.bad a ∧ d.instead.Closes a)
      (staged : Staged role s s r.program r.book) (calling : ∃ c next, r.program = .call c next) :
      Standing role t s (.running r)
  | finished (a : α) (time : Nat) : Standing role t s (.finished a time)

inductive Turned (crashed : ArithmeticError → α) (role : Role α) (t : Task α) (start : Store) :
    Process α × Store → Prop
  | standing (p : Process α) (s : Store) (unfinished : p.isFinished = false) (left : start.Leaves role.id s)
      (kept : s.committed = start.committed) (standing : Standing role t s p) : Turned crashed role t start (p, s)
  | answered (a : α) (time : Nat) (s : Store) (left : start.Leaves role.id s) (ending : Ending role start a s) :
      Turned crashed role t start (.finished a time, s)
  | refused (e : ArithmeticError) (time : Nat) (s : Store) (left : start.Leaves role.id s)
      (kept : s.committed = start.committed) (fails : ∃ a, role.bad a)
      (alone : ∃ now, role.program.solo now none start.committed = .error e) :
      Turned crashed role t start (.finished (crashed e) time, s)

theorem staged_rebase (role : Role α) (start s : Store) (p : Program α) (unit : Option Book)
    (calling : ∃ c next, p = .call c next) (staged : Staged role start s p unit) :
    s.committed = start.committed ∧ Staged role s s p unit := by
  obtain ⟨c, next, rfl⟩ := calling
  cases staged.stage with
  | before kept orderly same _ =>
      exact ⟨kept, Store.leaves_refl _ s, .before _ rfl orderly same fun _ closes => by cases closes⟩
  | inside b read kept owned inUnit seen extended same =>
      exact ⟨kept, Store.leaves_refl _ s, .inside _ b read rfl owned inUnit seen extended same⟩
  | lost b disturbed kept owned abandons => exact ⟨kept, Store.leaves_refl _ s, .lost _ b disturbed rfl owned abandons⟩
  | closing a closes _ => cases closes

section Poll

variable (crashed : ArithmeticError → α) (role : Role α) (t : Task α) (s : Store) (shown : role.seen s.clock)
  (quiet : role.calm → s.control.faults = [])

include shown quiet in
theorem resume_turned (r : Running α) (keeps : r.keep = none)
    (cutOff : ∀ d, r.deadline = some d → ¬ role.calm ∧ ∃ a, role.bad a ∧ d.instead.Closes a)
    (staged : Staged role s s r.program r.book) : Turned crashed role t s (Process.resume crashed role.id r s) := by
  have stopped := run_staged role s shown quiet r.program r.wait r.book s staged
  rw [Process.resume]
  split
  · rename_i program wait unit later halt
    rw [halt] at stopped
    obtain ⟨reached, calling⟩ := stopped
    obtain ⟨kept, rebased⟩ := staged_rebase role s later program unit calling reached
    cases due : r.deadline.filter fun d => d.after ≤ later.now with
    | none => exact .standing _ later rfl reached.leaves kept (.running _ keeps cutOff rebased calling)
    | some d =>
        obtain ⟨disturbed, a, isBad, closes⟩ := cutOff d (Option.eq_some_of_filter_eq_some due)
        obtain ⟨last, ended, committed, owner, clock, control, _⟩ :=
          run_closes role.id d.instead a .fresh none (later.withdraw role.id) closes
        have keptLast : last.committed = s.committed :=
          committed.trans ((Store.withdraw_committed later role.id).trans kept)
        have leftLast : s.Leaves role.id last := by
          refine Store.leaves_trans _ _ _ _ reached.leaves (Store.leaves_trans _ _ _ _
            (Store.withdraw_leaves role.id later) ⟨clock, control, ?_, .inr ⟨owner, committed⟩⟩)
          rw [committed]
          exact Book.extends_refl _
        simp only [ended, Process.stopped, Process.close]
        exact .answered a _ last leftLast (.trouble disturbed isBad keptLast)
  · rename_i stop halts
    cases run : Store.run role.id r.program r.wait r.book s with
    | mk halt later =>
        rw [run] at stopped
        cases halt with
        | paused program wait unit => exact absurd run (halts program wait unit later)
        | finished a unit =>
            obtain ⟨rfl, left, ending⟩ := stopped
            exact .answered a _ later left ending
        | crashed e =>
            obtain ⟨left, kept, fails, alone⟩ := stopped
            exact .refused e _ _ (Store.leaves_trans _ _ _ _ left (Store.withdraw_leaves role.id later))
              ((Store.withdraw_committed later role.id).trans kept) fails alone

include shown quiet in
theorem poll_turned (orderly : t.Orderly role.bad) (whole : role.program = t.body) (p : Process α)
    (unfinished : p.isFinished = false) (standing : Standing role t s p) :
    Turned crashed role t s (p.poll crashed role.id s) := by
  cases standing with
  | waiting unlimited =>
      refine resume_turned crashed role t s shown quiet _ rfl ?_ ⟨Store.leaves_refl _ s, ?_⟩
      · intro d deadline
        obtain ⟨given, found, rfl⟩ := Option.map_eq_some_iff.mp deadline
        refine ⟨fun calm => ?_, orderly.2 given found⟩
        rw [unlimited calm] at found
        cases found
      · exact .before _ rfl orderly.1 (fun later now _ => by rw [whole]) fun a closes => .inl ⟨a, by rwa [whole]⟩
  | running r keeps cutOff staged _ => exact resume_turned crashed role t s shown quiet r keeps cutOff staged
  | finished a time => cases unfinished

end Poll

theorem staged_others (role : Role α) (s later : Store) (p : Program α) (unit : Option Book)
    (calling : ∃ c next, p = .call c next) (extended : s.committed.Extends later.committed)
    (respected : s.owner = some (.process role.id) → later.owner = s.owner ∧ later.committed = s.committed)
    (staged : Staged role s s p unit) : Staged role later later p unit := by
  obtain ⟨c, next, rfl⟩ := calling
  refine ⟨Store.leaves_refl _ later, ?_⟩
  cases staged.stage with
  | before kept orderly same _ =>
      refine .before _ rfl orderly ?_ fun a closes => by cases closes
      exact fun book now further => same book now (Book.extends_trans _ _ _ extended further)
  | inside b read kept owned inUnit seen grown same =>
      obtain ⟨owner, committed⟩ := respected owned
      exact .inside _ b read rfl (owner.trans owned) inUnit seen (by rw [committed]; exact grown)
        (by rw [committed]; exact same)
  | lost b disturbed kept owned abandons => exact .lost _ b disturbed rfl ((respected owned).1.trans owned) abandons
  | closing a closes _ => cases closes

theorem staged_seen (role : Role α) (seen : Stamp → Prop) (calm : Prop) (s : Store) (p : Program α) (unit : Option Book)
    (more : ∀ now, role.seen now → seen now) (before : calm → role.calm) (staged : Staged role s s p unit) :
    Staged { role with seen, calm } s s p unit := by
  refine ⟨staged.leaves, ?_⟩
  cases staged.stage with
  | before kept orderly same locked => exact .before p kept orderly same locked
  | inside b read kept owned inUnit seenBefore extended same =>
      exact .inside p b read kept owned inUnit (fun now reading => more now (seenBefore now reading)) extended same
  | lost b disturbed kept owned abandons => exact .lost p b (mt before disturbed) kept owned abandons
  | closing a closes ending =>
      refine .closing p a closes ?_
      cases ending with
      | alone now seenBefore result locked => exact .alone now (more now seenBefore) result locked
      | trouble disturbed isBad kept => exact .trouble (mt before disturbed) isBad kept

theorem standing_others (role : Role α) (seen : Stamp → Prop) (calm : Prop) (t : Task α) (s later : Store)
    (p : Process α)
    (more : ∀ now, role.seen now → seen now) (before : calm → role.calm)
    (extended : s.committed.Extends later.committed)
    (respected : s.owner = some (.process role.id) → later.owner = s.owner ∧ later.committed = s.committed)
    (standing : Standing role t s p) : Standing { role with seen, calm } t later p := by
  cases standing with
  | waiting unlimited => exact .waiting fun now => unlimited (before now)
  | finished a time => exact .finished a time
  | running r keeps cutOff staged calling =>
      exact .running r keeps (fun d deadline => ⟨mt before (cutOff d deadline).1, (cutOff d deadline).2⟩)
        (staged_seen role seen calm later r.program r.book more before
        (staged_others role s later r.program r.book calling extended respected staged)) calling

end DoubleEntry
