import DoubleEntry.Proofs.Program.Mirror
import DoubleEntry.Proofs.Store.Turn
import DoubleEntry.Store.Schedule
import Mathlib.Data.List.Forall2

/-!
Jobs that mirror each other go the same way on a store. Each turn does the same to the store, but for what is
logged, and takes the same time; so a schedule of the one is a schedule of the other, and the answers differ only
as the programs' answers do.
-/

set_option autoImplicit false

namespace DoubleEntry

variable {α β : Type}

def Store.relog (s : Store) (log : List LogLine) : Store := { s with log }

namespace Store

variable (s : Store) (log : List LogLine)

theorem relog_approach (id : Nat) (c : Call) (wait : Wait) :
    (s.relog log).approach id c wait = s.approach id c wait := by
  cases wait <;> rfl

theorem relog_release : (s.relog log).release = s.release.relog log := by
  simp only [release, relog]
  cases s.queue <;> rfl

theorem relog_withdraw (id : Nat) : (s.relog log).withdraw id = (s.withdraw id).relog log := by
  have same : (s.relog log).holds (.process id) = s.holds (.process id) := rfl
  rw [withdraw, withdraw, same]
  by_cases own : s.holds (.process id) = true
  · rw [if_pos own, if_pos own, relog_release]
  · rw [if_neg own, if_neg own]
    rfl

theorem relog_enqueue (id : Nat) (wait : Wait) : (s.relog log).enqueue id wait = (s.enqueue id wait).relog log := by
  cases wait with
  | fresh => rfl
  | asleep wake => rfl
  | queued =>
      have same : (s.relog log).queue = s.queue := rfl
      rw [enqueue, enqueue, same]
      by_cases waits : s.queue.contains id = true
      · rw [if_pos waits, if_pos waits]
      · rw [if_neg waits, if_neg waits]
        rfl

theorem relog_failed (c : Call) (book : Option Book) :
    (s.relog log).failed c book = ((s.failed c book).1, (s.failed c book).2.relog log) := by
  simp only [failed]
  split
  · rw [relog_release]
  · rfl

theorem relog_perform (id : Nat) (book : Option Book) (c : Call) :
    (s.relog log).perform id book c =
      (s.perform id book c).map fun (reply, book, s) => (reply, book, s.relog log) := by
  by_cases isWork : c.isWork = true
  · rw [perform_work _ id book c isWork, perform_work s id book c isWork]
    change ((book.getD s.committed).answer c).map _ = _
    cases (book.getD s.committed).answer c <;> rfl
  · cases c with
    | getAccount account | listEntries account =>
        exact congrArg (fun t => Except.ok (_, _, t)) (relog_release { s with owner := _ } log)
    | begin => rfl
    | commit => exact congrArg (fun t => Except.ok (_, _, t)) (relog_release { s with committed := _ } log)
    | rollback => exact congrArg (fun t => Except.ok (_, _, t)) (relog_release s log)
    | getAccounts ids | createAccount account | debit id amount now | credit id amount now | append e =>
        cases isWork rfl

end Store

theorem run_logs (id : Nat) (p : Program α) (a : α) (wait : Wait) (unit : Option Book) (s : Store)
    (closes : p.Closes a) : ∃ log, Store.run id p wait unit s = (.finished a unit, s.relog log) := by
  induction closes generalizing wait s with
  | done a => exact ⟨s.log, rfl⟩
  | log line rest a _ ih => exact ih .fresh (s.logLine line)

inductive Stop.Mirrors (g : α → β) : Stop α → Stop β → Prop
  | finished (a : α) (book : Option Book) : Mirrors g (.finished a book) (.finished (g a) book)
  | paused (c : Call) (next : Except StoreError c.Reply → Program α) (other : Except StoreError c.Reply → Program β)
      (wait : Wait) (book : Option Book) (mirrors : ∀ reply, (next reply).Mirrors g (other reply)) :
      Mirrors g (.paused (.call c next) wait book) (.paused (.call c other) wait book)
  | crashed (e : ArithmeticError) : Mirrors g (.crashed e) (.crashed e)

-- The stores after both are the same but for what was logged.
def Alike {σ τ : Type} (related : σ → τ → Prop) (x : σ × Store) (y : τ × Store) : Prop :=
  related x.1 y.1 ∧ ∃ log, y.2 = x.2.relog log

theorem call_mirrors (g : α → β) (id : Nat) (c : Call) (next : Except StoreError c.Reply → Program α)
    (other : Except StoreError c.Reply → Program β) (mirrors : ∀ reply, (next reply).Mirrors g (other reply))
    (goes : ∀ reply book s log, Alike (Stop.Mirrors g) (Store.run id (next reply) .fresh book s)
      (Store.run id (other reply) .fresh book (s.relog log)))
    (wait : Wait) (book : Option Book) (s : Store) (log : List LogLine) :
    Alike (Stop.Mirrors g) (Store.run id (.call c next) wait book s)
      (Store.run id (.call c other) wait book (s.relog log)) := by
  rw [Store.run, Store.run, Store.relog_approach]
  cases s.approach id c wait with
  | failed e =>
      simp only [Store.relog_failed]
      exact goes (.error e) _ _ log
  | wait wait => exact ⟨.paused c next other wait book mirrors, log, Store.relog_enqueue s log id wait⟩
  | go =>
      simp only [Store.relog_perform]
      cases s.perform id book c with
      | ok done => exact goes done.1 done.2.1 done.2.2 log
      | error e => exact ⟨.crashed e, log, rfl⟩

theorem run_mirrors (g : α → β) (id : Nat) (p : Program α) (q : Program β) (mirrors : p.Mirrors g q)
    (book : Option Book) (s : Store) (log : List LogLine) :
    Alike (Stop.Mirrors g) (Store.run id p .fresh book s) (Store.run id q .fresh book (s.relog log)) := by
  induction mirrors generalizing book s log with
  | done a => exact ⟨.finished a book, log, rfl⟩
  | logFirst line p q _ ih => exact ih book (s.logLine line) log
  | logSecond line p q _ ih => exact ih book s (line :: log)
  | clock next other _ ih => exact ih s.clock book s log
  | call c next other mirrors ih => exact call_mirrors g id c next other mirrors ih .fresh book s log

inductive Process.Mirrors (g : α → β) : Process α → Process β → Prop
  | waiting (t : Task α) (u : Task β) (mirrors : t.Mirrors g u) : Mirrors g (.waiting (.task t)) (.waiting (.task u))
  | running (c : Call) (next : Except StoreError c.Reply → Program α) (other : Except StoreError c.Reply → Program β)
      (wait : Wait) (book : Option Book) (keep : Option String) (d : Option (Deadline α)) (e : Option (Deadline β))
      (mirrors : ∀ reply, (next reply).Mirrors g (other reply)) (limits : Option.Rel (Deadline.Mirrors g) d e) :
      Mirrors g (.running ⟨.call c next, wait, book, keep, d⟩) (.running ⟨.call c other, wait, book, keep, e⟩)
  | finished (a : α) (time : Nat) : Mirrors g (.finished a time) (.finished (g a) time)

section Processes

variable (g : α → β) (crashed : ArithmeticError → α) (refused : ArithmeticError → β)
  (same : ∀ e, g (crashed e) = refused e) (id : Nat)

include same in
theorem stopped_mirrors (keep : Option String) (d : Option (Deadline α)) (e : Option (Deadline β))
    (limits : Option.Rel (Deadline.Mirrors g) d e) (x : Stop α × Store) (y : Stop β × Store)
    (alike : Alike (Stop.Mirrors g) x y) :
    Alike (Process.Mirrors g) (Process.stopped crashed id keep d x) (Process.stopped refused id keep e y) := by
  obtain ⟨stop, s⟩ := x
  obtain ⟨other, later⟩ := y
  obtain ⟨mirrors, log, relogged⟩ := alike
  simp only at mirrors relogged
  subst relogged
  cases mirrors with
  | finished a book =>
      refine ⟨.finished a s.now, ?_⟩
      simp only [Process.stopped, Process.close]
      cases book with
      | none => exact ⟨log, rfl⟩
      | some book =>
          cases keep with
          | some name => exact ⟨log, rfl⟩
          | none => exact ⟨log, Store.relog_release s log⟩
  | paused c next other wait book mirrors =>
      exact ⟨.running c next other wait book keep d e mirrors limits, log, rfl⟩
  | crashed e =>
      refine ⟨?_, log, Store.relog_withdraw s log id⟩
      simp only [Process.stopped, ← same e]
      exact .finished (crashed e) s.now

include same in
theorem resume_mirrors (p : Program α) (q : Program β) (wait : Wait) (book : Option Book) (keep : Option String)
    (d : Option (Deadline α)) (e : Option (Deadline β)) (limits : Option.Rel (Deadline.Mirrors g) d e) (s : Store)
    (log : List LogLine)
    (goes : Alike (Stop.Mirrors g) (Store.run id p wait book s) (Store.run id q wait book (s.relog log))) :
    Alike (Process.Mirrors g) (Process.resume crashed id ⟨p, wait, book, keep, d⟩ s)
      (Process.resume refused id ⟨q, wait, book, keep, e⟩ (s.relog log)) := by
  simp only [Process.resume]
  generalize Store.run id p wait book s = x at goes
  generalize Store.run id q wait book (s.relog log) = y at goes
  obtain ⟨stop, later⟩ := x
  obtain ⟨other, last⟩ := y
  obtain ⟨mirrors, lines, relogged⟩ := goes
  simp only at mirrors relogged
  subst relogged
  cases mirrors with
  | finished a book =>
      exact stopped_mirrors g crashed refused same id keep d e limits _ _ ⟨.finished a book, lines, rfl⟩
  | crashed error => exact stopped_mirrors g crashed refused same id keep d e limits _ _ ⟨.crashed error, lines, rfl⟩
  | paused c next other wait book mirrors =>
      cases limits with
      | none => exact ⟨.running c next other wait book keep none none mirrors .none, lines, rfl⟩
      | some limit =>
          rename_i first second
          simp only [Option.filter, limit.after, Store.relog]
          by_cases due : first.after ≤ later.now
          · simp only [due, decide_true, if_true]
            refine stopped_mirrors g crashed refused same id none none none .none _ _ ?_
            change Alike _ _ (Store.run id second.instead .fresh none ((later.relog lines).withdraw id))
            rw [Store.relog_withdraw]
            exact run_mirrors g id _ _ limit.instead none _ lines
          · simp only [due, decide_false, Bool.false_eq_true, if_false]
            exact ⟨.running c next other wait book keep _ _ mirrors (.some limit), lines, rfl⟩

include same in
theorem poll_mirrors (p : Process α) (q : Process β) (mirrors : p.Mirrors g q) (s : Store) (log : List LogLine) :
    Alike (Process.Mirrors g) (p.poll crashed id s) (q.poll refused id (s.relog log)) := by
  cases mirrors with
  | waiting t u mirrors =>
      obtain ⟨body, deadline⟩ := t
      obtain ⟨other, limit⟩ := u
      apply resume_mirrors g crashed refused same id _ _ _ _ _ _ _ _ s log
      · exact run_mirrors g id _ _ mirrors.body none s log
      · cases mirrors.deadline with
        | none => exact .none
        | some limit => exact .some ⟨congrArg (s.now + ·) limit.after, limit.instead⟩
  | running c next other wait book keep d e mirrors limits =>
      apply resume_mirrors g crashed refused same id _ _ _ _ _ _ _ limits s log
      exact call_mirrors g id c next other mirrors (fun reply => run_mirrors g id _ _ (mirrors reply)) wait book s log
  | finished a time => exact ⟨.finished a time, log, rfl⟩

end Processes

section Systems

variable (g : α → β) (crashed : ArithmeticError → α) (refused : ArithmeticError → β)

-- The processes mirror each other one by one, on stores that are the same but for their logs.
structure System.Mirrors (y : System α) (z : System β) : Prop where
  store : ∃ log, z.store = y.store.relog log
  processes : List.Forall₂ (Process.Mirrors g) y.processes z.processes

theorem mirrors_ready (p : Process α) (q : Process β) (mirrors : p.Mirrors g q) (id : Nat) (s : Store)
    (log : List LogLine) : q.isReady (s.relog log) id = p.isReady s id := by
  cases mirrors with
  | waiting t u mirrors => rfl
  | finished a time => rfl
  | running c next other wait book keep d e mirrors limits =>
      cases limits with
      | none => rfl
      | some limit =>
          simp only [Process.isReady, Option.any_some, limit.after]
          rfl

theorem mirrors_next_time (p : Process α) (q : Process β) (mirrors : p.Mirrors g q) : q.nextTime = p.nextTime := by
  cases mirrors with
  | waiting t u mirrors => rfl
  | finished a time => rfl
  | running c next other wait book keep d e mirrors limits =>
      cases limits with
      | none => cases wait <;> rfl
      | some limit => cases wait <;> simp only [Process.nextTime, limit.after]

theorem mirrors_finished (p : Process α) (q : Process β) (mirrors : p.Mirrors g q) : q.isFinished = p.isFinished := by
  cases mirrors <;> rfl

theorem mirrors_abandon (p : Process α) (q : Process β) (mirrors : p.Mirrors g q) (id : Nat) (s : Store)
    (log : List LogLine) : q.abandon (s.relog log) id = (p.abandon s id).relog log := by
  cases mirrors with
  | waiting t u mirrors | finished a time => rfl
  | running c next other wait book keep d e mirrors limits => exact Store.relog_withdraw s log id

theorem found_related {σ τ : Type} (related : σ → τ → Prop) (xs : List σ) (ys : List τ)
    (all : List.Forall₂ related xs ys)
    (i : Nat) : Option.Rel related xs[i]? ys[i]? := by
  induction all generalizing i with
  | nil => exact .none
  | cons first _ ih =>
      cases i with
      | zero => exact .some first
      | succ i => exact ih i

theorem set_related {σ τ : Type} (related : σ → τ → Prop) (xs : List σ) (ys : List τ) (all : List.Forall₂ related xs ys)
    (i : Nat) (x : σ) (y : τ) (here : related x y) : List.Forall₂ related (xs.set i x) (ys.set i y) := by
  induction all generalizing i with
  | nil => exact .nil
  | cons first rest ih =>
      cases i with
      | zero => exact .cons here rest
      | succ i => exact .cons first (ih i)

variable (y : System α) (z : System β) (mirrors : System.Mirrors g y z)

include mirrors in
theorem system_ids : z.ids = y.ids := by
  rw [System.ids, System.ids, mirrors.processes.length_eq]

include mirrors in
theorem system_ready (id : Nat) : z.isReady id = y.isReady id := by
  obtain ⟨log, store⟩ := mirrors.store
  have related := found_related _ _ _ mirrors.processes id
  simp only [System.isReady, store]
  generalize y.processes[id]? = p at related
  generalize z.processes[id]? = q at related
  cases related with
  | none => rfl
  | some related => exact mirrors_ready g _ _ related id y.store log

include mirrors in
theorem system_step (same : ∀ e, g (crashed e) = refused e) (id : Nat) :
    System.Mirrors g (y.step crashed id) (z.step refused id) := by
  obtain ⟨log, store⟩ := mirrors.store
  have related := found_related _ _ _ mirrors.processes id
  simp only [System.step, store]
  generalize y.processes[id]? = p at related
  generalize z.processes[id]? = q at related
  cases related with
  | none => exact mirrors
  | some related =>
      obtain ⟨after, relogged⟩ := poll_mirrors g crashed refused same id _ _ related y.store log
      exact ⟨relogged, set_related _ _ _ mirrors.processes id _ _ after⟩

include mirrors in
theorem system_sweep (same : ∀ e, g (crashed e) = refused e) :
    System.Mirrors g (y.sweep crashed) (z.sweep refused) := by
  simp only [System.sweep, system_ids g y z mirrors]
  generalize y.ids = ids
  induction ids generalizing y z with
  | nil => exact mirrors
  | cons id ids ih =>
      simp only [List.foldl_cons, system_ready g y z mirrors id]
      apply ih
      by_cases ready : y.isReady id = true
      · rw [if_pos ready, if_pos ready]
        exact system_step g crashed refused y z mirrors same id
      · rw [if_neg ready, if_neg ready]
        exact mirrors

include mirrors in
theorem system_any_ready : z.anyReady = y.anyReady := by
  have ready : z.isReady = y.isReady := funext (system_ready g y z mirrors)
  rw [System.anyReady, System.anyReady, system_ids g y z mirrors, ready]

include mirrors in
theorem system_settle (same : ∀ e, g (crashed e) = refused e) (fuel : Nat) :
    System.Mirrors g (y.settle crashed fuel) (z.settle refused fuel) := by
  induction fuel generalizing y z with
  | zero => exact mirrors
  | succ fuel ih =>
      simp only [System.settle, system_any_ready g y z mirrors]
      by_cases ready : y.anyReady = true
      · rw [if_pos ready, if_pos ready]
        exact ih _ _ (system_sweep g crashed refused y z mirrors same)
      · rw [if_neg ready, if_neg ready]
        exact mirrors

include mirrors in
theorem system_finished : z.isFinished = y.isFinished := by
  have all := mirrors.processes
  rw [System.isFinished, System.isFinished]
  generalize y.processes = ps at all ⊢
  generalize z.processes = qs at all ⊢
  induction all with
  | nil => rfl
  | cons related _ ih => rw [List.all_cons, List.all_cons, mirrors_finished g _ _ related, ih]

include mirrors in
theorem system_next_time : z.nextTime = y.nextTime := by
  have all := mirrors.processes
  rw [System.nextTime, System.nextTime]
  apply congrArg List.min?
  generalize y.processes = ps at all ⊢
  generalize z.processes = qs at all ⊢
  induction all with
  | nil => rfl
  | cons related _ ih => rw [List.filterMap_cons, List.filterMap_cons, mirrors_next_time g _ _ related, ih]

include mirrors in
theorem system_results : z.results = y.results.map (List.map fun (a, time) => (g a, time)) := by
  have all := mirrors.processes
  rw [System.results, System.results]
  generalize y.processes = ps at all ⊢
  generalize z.processes = qs at all ⊢
  induction all with
  | nil => rfl
  | @cons p q ps qs related _ ih =>
      rw [List.mapM_cons, List.mapM_cons, ih]
      generalize (ps.mapM _ : Option (List (α × Nat))) = rest
      cases related with
      | waiting t u mirrors | running c next other wait book keep d e mirrors limits => rfl
      | finished a time => cases rest <;> rfl

include mirrors in
theorem system_run_until (same : ∀ e, g (crashed e) = refused e) (limit fuel : Nat) :
    System.Mirrors g (y.runUntil crashed limit fuel) (z.runUntil refused limit fuel) := by
  induction fuel generalizing y z with
  | zero => exact mirrors
  | succ fuel ih =>
      have rounds : z.rounds = y.rounds := by rw [System.rounds, System.rounds, mirrors.processes.length_eq]
      have settled := system_settle g crashed refused y z mirrors same y.rounds
      obtain ⟨log, store⟩ := settled.store
      have now : (z.settle refused y.rounds).store.now = (y.settle crashed y.rounds).store.now := by rw [store]; rfl
      simp only [System.runUntil, rounds, system_finished g _ _ settled, system_next_time g _ _ settled, now]
      split
      · exact settled
      · apply ih
        exact ⟨⟨log, by simp only [System.moveTo, store, Store.relog]⟩, settled.processes⟩

include mirrors in
theorem system_give_up : ∃ log, z.giveUp = y.giveUp.relog log := by
  obtain ⟨log, store⟩ := mirrors.store
  refine ⟨log, ?_⟩
  rw [System.giveUp, System.giveUp, system_ids g y z mirrors, store]
  generalize y.ids = ids
  generalize y.store = s
  induction ids generalizing s with
  | nil => rfl
  | cons id ids ih =>
      have related := found_related _ _ _ mirrors.processes id
      rw [List.foldl_cons, List.foldl_cons]
      generalize y.processes[id]? = p at related
      generalize z.processes[id]? = q at related
      cases related with
      | none => exact ih s
      | some related =>
          rw [Option.map_some, Option.map_some, Option.getD_some, Option.getD_some, mirrors_abandon g _ _ related]
          exact ih _

end Systems

/-- Whatever a schedule makes of some tasks, it makes of tasks that mirror them. -/
theorem schedule_mirrors (g : α → β) (crashed : ArithmeticError → α) (refused : ArithmeticError → β)
    (same : ∀ e, g (crashed e) = refused e) (limit : Nat) (s : Store) (ts : List (Task α)) (us : List (Task β))
    (mirrors : List.Forall₂ (Task.Mirrors g) ts us) :
    (System.run refused limit s (us.map .task)).1 =
        (System.run crashed limit s (ts.map .task)).1.map (List.map fun (a, time) => (g a, time)) ∧
      ∃ log, (System.run refused limit s (us.map .task)).2 = (System.run crashed limit s (ts.map .task)).2.relog log := by
  have start : System.Mirrors g (System.ofJobs s (ts.map .task)) (System.ofJobs s (us.map .task)) := by
    refine ⟨⟨s.log, rfl⟩, ?_⟩
    simp only [System.ofJobs, List.map_map]
    induction mirrors with
    | nil => exact .nil
    | cons related _ ih => exact .cons (.waiting _ _ related) ih
  have rounds : (System.ofJobs s (us.map .task)).rounds = (System.ofJobs s (ts.map .task)).rounds := by
    rw [System.rounds, System.rounds, start.processes.length_eq]
  have ran := system_run_until g crashed refused _ _ start same limit (System.ofJobs s (ts.map .task)).rounds
  simp only [System.run, rounds]
  exact ⟨system_results g _ _ ran, system_give_up g _ _ ran⟩

end DoubleEntry
