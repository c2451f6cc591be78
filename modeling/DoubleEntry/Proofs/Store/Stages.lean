import DoubleEntry.Proofs.Store.Turn

/-!
The stages of an orderly program over many turns. Between turns it stands where it would stand by itself on the
committed book, or a failure has sent it to its rollback. In the turn in which it ends, its answer and what it
publishes are those of the whole program by itself.
-/

set_option autoImplicit false

namespace DoubleEntry

open Time (Stamp)

variable {α : Type}

-- What does not change for a process: its number, its program, the answers that are failures, the readings of the
-- clock that it may have made, and whether no call is made to fail and nothing cuts it off.
structure Role (α : Type) where
  id : Nat
  program : Program α
  bad : α → Prop
  seen : Stamp → Prop
  calm : Prop

-- How an answer that is given in a turn relates to the store at the start of the turn.
inductive Ending (role : Role α) (start : Store) (a : α) (s : Store) : Prop
  | alone (now : Stamp) (seen : role.seen now)
      (result : role.program.solo now none start.committed = .ok (a, s.committed))
      (locked : (∃ b, role.program.Closes b) ∨ start.Admits role.id)
  | trouble (disturbed : ¬ role.calm) (isBad : role.bad a) (kept : s.committed = start.committed)

inductive Stage (role : Role α) (start : Store) (s : Store) : Program α → Option Book → Prop
  | before (p : Program α) (kept : s.committed = start.committed) (orderly : p.Orderly role.bad)
      (same : ∀ later now, s.committed.Extends later →
        p.solo now none later = role.program.solo now none later)
      (locked : ∀ a, p.Closes a → (∃ b, role.program.Closes b) ∨ start.Admits role.id) : Stage role start s p none
  | inside (p : Program α) (b : Book) (read : Option Stamp) (kept : s.committed = start.committed)
      (owned : s.owner = some (.process role.id)) (inUnit : p.InUnit role.bad read.isSome)
      (seen : ∀ now, read = some now → role.seen now) (extended : s.committed.Extends b)
      (same : ∀ now, p.solo now (some b) s.committed =
        role.program.solo (read.getD now) none s.committed) : Stage role start s p (some b)
  | lost (p : Program α) (b : Book) (disturbed : ¬ role.calm) (kept : s.committed = start.committed)
      (owned : s.owner = some (.process role.id)) (abandons : p.Abandons role.bad) : Stage role start s p (some b)
  | closing (p : Program α) (a : α) (closes : p.Closes a) (ending : Ending role start a s) : Stage role start s p none

structure Staged (role : Role α) (start s : Store) (p : Program α) (unit : Option Book) : Prop where
  leaves : start.Leaves role.id s
  stage : Stage role start s p unit

section Steps

variable (role : Role α) (start s : Store)

theorem stage_congr (p : Program α) (unit : Option Book) (later : Store) (committed : later.committed = s.committed)
    (owner : later.owner = s.owner) (stage : Stage role start s p unit) : Stage role start later p unit := by
  cases stage with
  | before kept orderly same locked =>
      exact .before p (committed.trans kept) orderly (by rw [committed]; exact same) locked
  | inside b read kept owned inUnit seen extended same =>
      exact .inside p b read (committed.trans kept) (owner.trans owned) inUnit seen
        (by rw [committed]; exact extended) (by rw [committed]; exact same)
  | lost b disturbed kept owned abandons =>
      exact .lost p b disturbed (committed.trans kept) (owner.trans owned) abandons
  | closing a closes ending =>
      refine .closing p a closes ?_
      cases ending with
      | alone now seen result locked => exact .alone now seen (by rw [committed]; exact result) locked
      | trouble disturbed isBad kept => exact .trouble disturbed isBad (committed.trans kept)

theorem staged_congr (p : Program α) (unit : Option Book) (later : Store) (committed : later.committed = s.committed)
    (owner : later.owner = s.owner) (clock : later.clock = s.clock) (control : later.control = s.control)
    (staged : Staged role start s p unit) :
    Staged role start later p unit := by
  refine ⟨Store.leaves_trans _ _ _ _ staged.leaves ⟨clock, control, ?_, .inr ⟨owner, committed⟩⟩, ?_⟩
  · rw [committed]
    exact Book.extends_refl _
  · exact stage_congr role start s p unit later committed owner staged.stage

theorem staged_log (line : LogLine) (rest : Program α) (unit : Option Book)
    (staged : Staged role start s (.log line rest) unit) : Staged role start (s.logLine line) rest unit := by
  refine staged_congr role start s rest unit _ rfl rfl rfl rfl ⟨staged.leaves, ?_⟩
  cases staged.stage with
  | before kept orderly same locked =>
      exact .before rest kept (Program.orderly_log role.bad line rest orderly) same fun a closes =>
        locked a (.log line rest a closes)
  | inside b read kept owned inUnit seen extended same =>
      exact .inside rest b read kept owned (Program.in_unit_log role.bad _ line rest inUnit) seen extended same
  | lost b disturbed kept owned abandons =>
      obtain ⟨_, _, impossible, _⟩ := abandons
      cases impossible
  | closing a closes ending =>
      cases closes with
      | log _ _ _ closes => exact .closing rest a closes ending

theorem staged_clock (next : Stamp → Program α) (unit : Option Book) (seen : role.seen s.clock)
    (staged : Staged role start s (.clock next) unit) : Staged role start s (next s.clock) unit := by
  refine ⟨staged.leaves, ?_⟩
  cases staged.stage with
  | before kept orderly same locked =>
      cases orderly with
      | closes _ a closes => cases closes
  | inside b read kept owned inUnit seenBefore extended same =>
      generalize flag : read.isSome = hasRead at inUnit
      cases inUnit with
      | clock _ inUnit =>
          cases read with
          | some now => cases flag
          | none =>
              refine .inside _ b (some s.clock) kept owned (inUnit s.clock) ?_ extended ?_
              · intro now reading
                cases reading
                exact seen
              · intro now
                have settled := Program.solo_after_reading role.bad true _ (inUnit s.clock) rfl now s.clock
                  (some b) s.committed
                exact settled.trans (same s.clock)
  | lost b disturbed kept owned abandons =>
      obtain ⟨_, _, impossible, _⟩ := abandons
      cases impossible
  | closing a closes ending => cases closes

theorem unit_ending (p : Program α) (b : Book) (read : Option Stamp) (a : α) (later : Store)
    (shown : role.seen start.clock) (kept : s.committed = start.committed) (admits : start.Admits role.id)
    (seen : ∀ now, read = some now → role.seen now)
    (same : ∀ now, p.solo now (some b) s.committed = role.program.solo (read.getD now) none s.committed)
    (result : p.solo start.clock (some b) s.committed = .ok (a, later.committed)) :
    Ending role start a later := by
  refine .alone (read.getD start.clock) ?_ ?_ (.inr admits)
  · cases read with
    | none => exact shown
    | some now => exact seen now rfl
  · rw [← kept, ← same, result]

theorem staged_failed (c : Call) (next : Except StoreError c.Reply → Program α) (unit : Option Book) (e : StoreError)
    (shown : role.seen start.clock) (quiet : role.calm → start.control.faults = [])
    (failure : s.control.failure? c = some e) (staged : Staged role start s (.call c next) unit) :
    Staged role start (s.failed c unit).2 (next (.error e)) (s.failed c unit).1 := by
  obtain ⟨notRead, detail, rfl⟩ := injected_failure s.control c e failure
  have disturbed : ¬ role.calm := by
    intro calm
    apply failure_injected s.control c _ failure
    rw [staged.leaves.control]
    exact quiet calm
  have leaves := staged.leaves
  have admitted : s.owner = some (.process role.id) → start.Admits role.id := fun owned =>
    Store.leaves_admits role.id start s leaves (.inr owned)
  have released : s.owner = some (.process role.id) → start.Leaves role.id s.release := fun owned =>
    Store.leaves_trans role.id start s _ leaves (Store.leaves_release role.id s (.inr owned))
  cases staged.stage with
  | before kept orderly same locked =>
      cases orderly with
      | closes _ a closes => cases closes
      | begin _ _ failing =>
          obtain ⟨a, isBad, closes⟩ := failing (.backend detail)
          exact ⟨leaves, .closing _ a closes (.trouble disturbed isBad kept)⟩
      | read _ _ isRead _ => rw [isRead] at notRead; cases notRead
      | probe _ _ _ _ _ _ => cases notRead
  | inside b read kept owned inUnit seen extended same =>
      generalize flag : read.isSome = hasRead at inUnit
      cases inUnit with
      | work _ _ _ isWork _ failing =>
          simp only [Store.failed, (work_neither_reads_nor_ends c isWork).2, Bool.false_eq_true, if_false]
          exact ⟨leaves, .lost _ b disturbed kept owned (failing detail)⟩
      | commit _ _ _ _ failing =>
          obtain ⟨a, isBad, closes⟩ := failing (.backend detail)
          exact ⟨released owned,
            .closing _ a closes (.trouble disturbed isBad ((Store.release_committed s).trans kept))⟩
      | rollback _ _ a closes =>
          refine ⟨released owned, .closing _ a (closes _) ?_⟩
          apply unit_ending role start s _ b read a _ shown kept (admitted owned) seen same
          have ended := Program.solo_closes start.clock _ a none s.committed (closes (.ok ()))
          have committed : s.release.committed = s.committed := Store.release_committed s
          exact ended.trans (by rw [← committed]; rfl)
  | lost b disturbed kept owned abandons =>
      obtain ⟨rolledBack, a, shape, isBad, closes⟩ := abandons
      cases shape
      exact ⟨released owned,
        .closing _ a (closes _) (.trouble disturbed isBad ((Store.release_committed s).trans kept))⟩
  | closing a closes _ => cases closes

theorem staged_begin (next : Except StoreError Unit → Program α) (unit : Option Book) (admits : s.Admits role.id)
    (staged : Staged role start s (.call .begin next) unit) :
    Staged role start { s with owner := some (.process role.id) } (next (.ok ())) (some s.committed) := by
  have leaves := Store.leaves_trans role.id start s { s with owner := some (.process role.id) } staged.leaves
    (Store.leaves_of_admits role.id s _ admits rfl rfl (Book.extends_refl _))
  refine ⟨leaves, ?_⟩
  cases staged.stage with
  | before kept orderly same _ =>
      cases orderly with
      | closes _ a closes => cases closes
      | read _ _ isRead _ => cases isRead
      | begin _ inUnit _ =>
          refine .inside _ s.committed none kept rfl inUnit (fun _ impossible => by cases impossible)
            (Book.extends_refl _) ?_
          exact fun now => same s.committed now (Book.extends_refl _)
  | inside b read kept owned inUnit _ _ _ =>
      generalize flag : read.isSome = hasRead at inUnit
      cases inUnit with
      | work _ _ _ isWork _ _ => cases isWork
  | lost b disturbed kept owned abandons =>
      obtain ⟨_, _, shape, _⟩ := abandons
      cases shape
  | closing a closes _ => cases closes

theorem staged_read (c : Call) (next : Except StoreError c.Reply → Program α) (unit : Option Book)
    (reply : Except StoreError c.Reply) (later : Store) (shown : role.seen start.clock) (isRead : c.isRead = true)
    (admits : s.Admits role.id) (left : s.Leaves role.id later) (committed : later.committed = s.committed)
    (served : Book.serve none s.committed c = .ok (reply, none, s.committed))
    (staged : Staged role start s (.call c next) unit) : Staged role start later (next reply) unit := by
  have admitted := Store.leaves_admits role.id start s staged.leaves admits
  refine ⟨Store.leaves_trans role.id start s later staged.leaves left, ?_⟩
  cases staged.stage with
  | before kept orderly same _ =>
      have ends : ∀ a, (next reply).Closes a → Stage role start later (next reply) none := by
        intro a closes
        refine .closing _ a closes (.alone start.clock shown ?_ (.inr admitted))
        rw [← kept, ← same s.committed start.clock (Book.extends_refl _),
          Program.solo_call start.clock c next none none s.committed s.committed reply served,
          Program.solo_closes start.clock _ a none s.committed closes, committed]
      cases orderly with
      | closes _ a closes => cases closes
      | begin _ _ _ => cases isRead
      | read _ _ _ closes =>
          obtain ⟨a, closes⟩ := closes reply
          exact ends a closes
      | probe id next rest found orderly missing =>
          -- What is found now is found later: accounts do not vanish while the program waits for its next call.
          have answer : reply = .ok (s.committed.account? id) := by cases served; rfl
          cases present : s.committed.account? id with
          | none =>
              obtain ⟨a, closes⟩ := missing
              rw [answer, present] at ends ⊢
              exact ends a closes
          | some account =>
              rw [answer, present, found account]
              refine .before rest (committed.trans kept) orderly ?_ fun _ _ => .inr admitted
              intro book now extended
              rw [committed] at extended
              obtain ⟨stays, foundLater, _⟩ := extended.accounts id account present
              have step := Program.solo_call now (.getAccount id) next none none book book
                (.ok (some stays)) (by rw [Book.serve, foundLater])
              rw [← same book now extended, step, found stays]
  | inside b read kept owned inUnit seen extended same =>
      generalize flag : read.isSome = hasRead at inUnit
      cases inUnit with
      | work _ _ _ isWork _ _ =>
          rw [(work_neither_reads_nor_ends c isWork).1] at isRead
          cases isRead
      | commit _ _ _ _ _ => cases isRead
      | rollback _ _ _ _ => cases isRead
  | lost b disturbed kept owned abandons =>
      obtain ⟨_, _, shape, _⟩ := abandons
      cases shape
      cases isRead
  | closing a closes _ => cases closes

theorem staged_in_unit (c : Call) (next : Except StoreError c.Reply → Program α) (unit : Option Book)
    (isWork : c.isWork = true) (staged : Staged role start s (.call c next) unit) :
    ∃ b, unit = some b ∧ s.committed = start.committed ∧ (∃ a, role.bad a) ∧
      (∀ e, b.answer c = .error e → ∃ now, role.program.solo now none start.committed = .error e) ∧
      ∀ reply after, b.answer c = .ok (reply, after) → Staged role start s (next reply) (some after) := by
  have neither := work_neither_reads_nor_ends c isWork
  cases staged.stage with
  | before kept orderly _ _ =>
      cases orderly with
      | closes _ a closes => cases closes
      | begin _ _ _ => cases isWork
      | read _ _ isRead _ =>
          rw [neither.1] at isRead
          cases isRead
      | probe _ _ _ _ _ _ => cases isWork
  | inside b read kept owned inUnit seen extended same =>
      generalize flag : read.isSome = hasRead at inUnit
      cases inUnit with
      | commit _ _ _ _ _ => cases isWork
      | rollback _ _ _ _ => cases isWork
      | work _ _ _ _ inUnit failing =>
          obtain ⟨_, a, _, isBad, _⟩ := failing ""
          refine ⟨b, rfl, kept, ⟨a, isBad⟩, ?_, ?_⟩
          · intro e refused
            refine ⟨read.getD start.clock, ?_⟩
            rw [← kept, ← same start.clock]
            simp only [Program.solo, serve_work (some b) s.committed c isWork, Option.getD_some, refused]
            rfl
          intro reply after answered
          subst flag
          have step := fun now => Program.solo_call now c next (some b) (some after) s.committed s.committed reply
            (by rw [serve_work (some b) s.committed c isWork, Option.getD_some, answered]; rfl)
          exact ⟨staged.leaves, .inside _ after read kept owned (inUnit reply) seen
            (Book.extends_trans _ _ _ extended (Book.answer_extends b c reply after answered))
            fun now => (step now).symm.trans (same now)⟩
  | lost b disturbed kept owned abandons =>
      obtain ⟨_, _, shape, _⟩ := abandons
      cases shape
      cases isWork
  | closing a closes _ => cases closes

theorem staged_commit (next : Except StoreError Unit → Program α) (unit : Option Book) (shown : role.seen start.clock)
    (staged : Staged role start s (.call .commit next) unit) :
    Staged role start (Store.release { s with committed := unit.getD s.committed }) (next (.ok ())) none := by
  cases staged.stage with
  | before _ orderly _ _ =>
      cases orderly with
      | closes _ a closes => cases closes
      | read _ _ isRead _ => cases isRead
  | inside b read kept owned inUnit seen extended same =>
      generalize flag : read.isSome = hasRead at inUnit
      cases inUnit with
      | work _ _ _ isWork _ _ => cases isWork
      | commit _ _ a closes _ =>
          have admitted := Store.leaves_admits role.id start s staged.leaves (.inr owned)
          have published := Store.release_committed { s with committed := b }
          have left : s.Leaves role.id (Store.release { s with committed := b }) :=
            Store.leaves_of_admits role.id s _ (.inr owned) (Store.release_clock _) (Store.release_control _)
              (by rw [published]; exact extended)
          refine ⟨Store.leaves_trans _ _ _ _ staged.leaves left, .closing _ a closes ?_⟩
          apply unit_ending role start s _ b read a _ shown kept admitted seen same
          rw [Option.getD_some, published]
          exact Program.solo_closes start.clock _ a none b closes
  | lost b _ _ _ abandons =>
      obtain ⟨_, _, shape, _⟩ := abandons
      cases shape
  | closing a closes _ => cases closes

theorem staged_rollback (next : Except StoreError Unit → Program α) (unit : Option Book)
    (shown : role.seen start.clock) (staged : Staged role start s (.call .rollback next) unit) :
    Staged role start s.release (next (.ok ())) none := by
  have committed := Store.release_committed s
  cases staged.stage with
  | before _ orderly _ _ =>
      cases orderly with
      | closes _ a closes => cases closes
      | read _ _ isRead _ => cases isRead
  | inside b read kept owned inUnit seen _ same =>
      generalize flag : read.isSome = hasRead at inUnit
      cases inUnit with
      | work _ _ _ isWork _ _ => cases isWork
      | rollback _ _ a closes =>
          have admitted := Store.leaves_admits role.id start s staged.leaves (.inr owned)
          refine ⟨Store.leaves_trans _ _ _ _ staged.leaves (Store.leaves_release role.id s (.inr owned)),
            .closing _ a (closes _) ?_⟩
          apply unit_ending role start s _ b read a _ shown kept admitted seen same
          rw [committed]
          exact Program.solo_closes start.clock _ a none s.committed (closes _)
  | lost b disturbed kept owned abandons =>
      obtain ⟨_, a, shape, isBad, closes⟩ := abandons
      cases shape
      exact ⟨Store.leaves_trans _ _ _ _ staged.leaves (Store.leaves_release role.id s (.inr owned)),
        .closing _ a (closes _) (.trouble disturbed isBad (committed.trans kept))⟩
  | closing a closes _ => cases closes

theorem staged_performed (c : Call) (next : Except StoreError c.Reply → Program α) (unit : Option Book)
    (shown : role.seen start.clock) (admits : c.needsLock = true → s.Admits role.id)
    (staged : Staged role start s (.call c next) unit) :
    match s.perform role.id unit c with
    | .ok (reply, after, later) => Staged role start later (next reply) after
    | .error e => s.committed = start.committed ∧ (∃ a, role.bad a) ∧
        ∃ now, role.program.solo now none start.committed = .error e := by
  have reads : ∀ admitted : s.Admits role.id,
      s.Leaves role.id (Store.release { s with owner := some (.process role.id) }) := fun admitted =>
    Store.leaves_trans _ _ _ _ (Store.leaves_of_admits role.id s { s with owner := some (.process role.id) }
      admitted rfl rfl (Book.extends_refl _)) (Store.leaves_release role.id _ (.inr rfl))
  by_cases isWork : c.isWork = true
  · obtain ⟨b, rfl, kept, isBad, refused, goesOn⟩ := staged_in_unit role start s c next unit isWork staged
    rw [Store.perform_work s role.id (some b) c isWork, Option.getD_some]
    cases answered : b.answer c with
    | error e => exact ⟨kept, isBad, refused e answered⟩
    | ok result => exact goesOn result.1 result.2 answered
  · cases c with
    | getAccount id =>
        exact staged_read role start s _ next unit _ _ shown rfl (admits rfl) (reads (admits rfl))
          (Store.release_committed _) rfl staged
    | listEntries id =>
        exact staged_read role start s _ next unit _ _ shown rfl (admits rfl) (reads (admits rfl))
          (Store.release_committed _) rfl staged
    | begin => exact staged_begin role start s next unit (admits rfl) staged
    | commit => exact staged_commit role start s next unit shown staged
    | rollback => exact staged_rollback role start s next unit shown staged
    | getAccounts ids | createAccount account | debit id amount now | credit id amount now | append e =>
        cases isWork rfl

end Steps

-- Where a turn may stop: at the answer, before a call, or at a refusal by arithmetic.
def Stopped (role : Role α) (start : Store) : Stop α × Store → Prop
  | (.finished a unit, s) => unit = none ∧ start.Leaves role.id s ∧ Ending role start a s
  | (.paused p _ unit, s) => Staged role start s p unit ∧ ∃ c next, p = .call c next
  | (.crashed e, s) => start.Leaves role.id s ∧ s.committed = start.committed ∧ (∃ a, role.bad a) ∧
      ∃ now, role.program.solo now none start.committed = .error e

theorem staged_finished (role : Role α) (start s : Store) (a : α) (unit : Option Book) (shown : role.seen start.clock)
    (staged : Staged role start s (.done a) unit) : Stopped role start (.finished a unit, s) := by
  cases staged.stage with
  | before kept orderly same locked =>
      refine ⟨rfl, staged.leaves, .alone start.clock shown ?_ (locked a (.done a))⟩
      rw [← kept, ← same s.committed start.clock (Book.extends_refl _)]
      rfl
  | inside b read _ _ inUnit _ _ _ =>
      generalize flag : read.isSome = hasRead at inUnit
      cases inUnit
  | lost b _ _ _ abandons =>
      obtain ⟨_, _, shape, _⟩ := abandons
      cases shape
  | closing b closes ending =>
      cases closes
      exact ⟨rfl, staged.leaves, ending⟩

theorem run_staged (role : Role α) (start : Store) (shown : role.seen start.clock)
    (quiet : role.calm → start.control.faults = []) (p : Program α) (wait : Wait) (unit : Option Book) (s : Store)
    (staged : Staged role start s p unit) :
    Stopped role start (Store.run role.id p wait unit s) := by
  induction p generalizing wait unit s with
  | done a => exact staged_finished role start s a unit shown staged
  | log line rest ih => exact ih .fresh unit _ (staged_log role start s line rest unit staged)
  | clock next ih =>
      have seen : role.seen s.clock := by rw [staged.leaves.clock]; exact shown
      exact ih s.clock .fresh unit s (staged_clock role start s next unit seen staged)
  | call c next ih =>
      rw [Store.run]
      rcases Store.approach_cases s role.id c wait with ⟨e, failing, failure⟩ | ⟨going, admits⟩ | ⟨later, waiting⟩
      · rw [failing]
        exact ih (.error e) .fresh _ _ (staged_failed role start s c next unit e shown quiet failure staged)
      · rw [going]
        have performed := staged_performed role start s c next unit shown admits staged
        cases effect : s.perform role.id unit c with
        | error e =>
            rw [effect] at performed
            exact ⟨staged.leaves, performed⟩
        | ok result =>
            rw [effect] at performed
            exact ih result.1 .fresh result.2.1 result.2.2 performed
      · rw [waiting]
        refine ⟨?_, c, next, rfl⟩
        refine staged_congr role start s _ unit _ ?_ ?_ ?_ ?_ staged <;> cases later <;> simp only [Store.enqueue] <;>
          split <;> rfl

end DoubleEntry
