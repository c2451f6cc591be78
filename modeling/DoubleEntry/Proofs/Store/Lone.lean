import DoubleEntry.Proofs.Program.Length
import DoubleEntry.Proofs.Store.Alone
import DoubleEntry.Proofs.Store.Poll
import DoubleEntry.Store.Schedule

/-!
A task that has a store to itself, with whatever trouble is injected. It comes to an end after the latency of each
of its calls at the latest, and then its answer and what it leaves are those of its program by itself, or it is
in trouble and leaves nothing.
-/

set_option autoImplicit false

namespace DoubleEntry

open Time (Stamp)

variable {α : Type}

inductive Halts (n limit : Nat) (s : Store) : Stop α → Prop
  | finished (a : α) (book : Option Book) : Halts n limit s (.finished a book)
  | crashed (e : ArithmeticError) : Halts n limit s (.crashed e)
  | asleep (c : Call) (next : Except StoreError c.Reply → Program α) (wake left : Nat) (book : Option Book)
      (later : s.now < wake) (fewer : left < n) (fits : wake + left * s.control.latency ≤ limit)
      (within : ∀ reply, (next reply).Within left) : Halts n limit s (.paused (.call c next) (.asleep wake) book)

theorem halts_more (n m limit : Nat) (s later : Store) (stop : Stop α) (more : n ≤ m) (now : later.now = s.now)
    (control : later.control = s.control) (halts : Halts n limit later stop) : Halts m limit s stop := by
  cases halts with
  | finished a book => exact .finished a book
  | crashed e => exact .crashed e
  | asleep c next wake left book sooner fewer fits within =>
      rw [now] at sooner
      rw [control] at fits
      exact .asleep c next wake left book sooner (Nat.lt_of_lt_of_le fewer more) fits within

structure Runs (id n limit : Nat) (s : Store) (x : Stop α × Store) : Prop where
  halts : Halts n limit s x.1
  proceeds : s.Proceeds x.2 id

theorem proceeds_trans (id : Nat) (s mid later : Store) (first : s.Proceeds mid id) (second : mid.Proceeds later id) :
    s.Proceeds later id :=
  ⟨second.clock.trans first.clock, second.now.trans first.now, second.control.trans first.control, second.unshared⟩

theorem failed_proceeds (id : Nat) (s : Store) (c : Call) (book : Option Book) (unshared : s.Unshared id) :
    s.Proceeds (s.failed c book).2 id := by
  rw [Store.failed]
  split
  · exact unshared_release s id unshared
  · exact ⟨rfl, rfl, rfl, unshared⟩

theorem runs_after (id n m limit : Nat) (s mid : Store) (x : Stop α × Store) (more : n ≤ m)
    (proceeds : s.Proceeds mid id) (runs : Runs id n limit mid x) : Runs id m limit s x :=
  ⟨halts_more n m limit s mid x.1 more proceeds.now proceeds.control runs.halts,
    proceeds_trans id s mid x.2 proceeds runs.proceeds⟩

theorem going_runs (id n limit : Nat) (c : Call) (next : Except StoreError c.Reply → Program α) (unit : Option Book)
    (s : Store) (wait : Wait) (unshared : s.Unshared id) (going : s.approach id c wait = .go)
    (after : ∀ reply unit mid, s.Proceeds mid id → Runs id n limit mid (Store.run id (next reply) .fresh unit mid)) :
    Runs id n limit s (Store.run id (.call c next) wait unit s) := by
  rw [Store.run, going]
  cases served : Book.serve unit s.committed c with
  | ok done =>
      obtain ⟨reply, unit, later⟩ := done
      obtain ⟨mid, performed, _, proceeds⟩ := unshared_perform s id _ unit c reply later unshared served
      rw [performed]
      exact runs_after id n n limit s mid _ (Nat.le_refl n) proceeds (after reply unit mid proceeds)
  | error e =>
      have refused : s.perform id unit c = .error e := by
        by_cases isWork : c.isWork = true
        · rw [serve_work unit s.committed c isWork] at served
          rw [Store.perform_work s id unit c isWork]
          cases answered : (unit.getD s.committed).answer c with
          | error failure =>
              rw [answered] at served
              cases served
              rfl
          | ok result =>
              rw [answered] at served
              cases served
        · cases c with
          | getAccount account | listEntries account | begin | commit | rollback => cases served
          | getAccounts ids | createAccount account | debit id amount now | credit id amount now | append entry =>
              cases isWork rfl
      rw [refused]
      exact ⟨.crashed e, rfl, rfl, rfl, unshared⟩

theorem lone_runs (id n limit : Nat) (p : Program α) (within : p.Within n) (unit : Option Book) (s : Store)
    (unshared : s.Unshared id) (fits : s.now + n * s.control.latency ≤ limit) :
    Runs id n limit s (Store.run id p .fresh unit s) := by
  induction within generalizing unit s with
  | done n a => exact ⟨.finished a unit, rfl, rfl, rfl, unshared⟩
  | log n line rest _ ih =>
      have logged : s.Proceeds (s.logLine line) id := ⟨rfl, rfl, rfl, unshared.free, unshared.admits⟩
      exact runs_after id n n limit s _ _ (Nat.le_refl n) logged (ih unit _ logged.unshared fits)
  | clock n next _ ih => exact ih s.clock unit s unshared fits
  | call n c next within ih =>
      have rest : s.now + s.control.latency + n * s.control.latency ≤ limit := by
        rw [Nat.add_mul, Nat.one_mul] at fits
        omega
      have fewer : ∀ mid : Store, s.Proceeds mid id → mid.now + n * mid.control.latency ≤ limit := by
        intro mid proceeds
        rw [proceeds.now, proceeds.control]
        omega
      -- Let through at once or after its latency, the call is the same.
      have goes : s.approach id c .fresh = .go → Runs id (n + 1) limit s (Store.run id (.call c next) .fresh unit s) := by
        intro going
        refine going_runs id (n + 1) limit c next unit s .fresh unshared going ?_
        intro reply after mid proceeds
        have same : mid.Proceeds mid id := ⟨rfl, rfl, rfl, proceeds.unshared⟩
        exact runs_after id n _ limit mid mid _ (Nat.le_succ n) same
          (ih reply after mid proceeds.unshared (fewer mid proceeds))
      cases failure : s.control.failure? c with
      | some e =>
          have failing : s.approach id c .fresh = .failed e := by simp only [Store.approach, failure]
          have proceeds := failed_proceeds id s c unit unshared
          rw [Store.run, failing]
          exact runs_after id n _ limit s _ _ (Nat.le_succ n) proceeds
            (ih (.error e) _ _ proceeds.unshared (fewer _ proceeds))
      | none =>
          by_cases atOnce : s.control.latency = 0
          · apply goes
            simp only [Store.approach, failure, if_pos atOnce]
            exact unshared_enter s id c unshared
          · have sleeping : s.approach id c .fresh = .wait (.asleep (s.now + s.control.latency)) := by
              simp only [Store.approach, failure, if_neg atOnce]
            rw [Store.run, sleeping]
            exact ⟨.asleep c next _ n unit (by omega) (Nat.lt_succ_self n) rest within, rfl, rfl, rfl, unshared⟩

-- A process that is done, or sleeps with at most `n` calls to make, until `limit` at the latest.
inductive Rests (n limit : Nat) (s : Store) : Process α → Prop
  | finished (a : α) (time : Nat) : Rests n limit s (.finished a time)
  | asleep (r : Running α) (c : Call) (next : Except StoreError c.Reply → Program α) (wake left : Nat)
      (program : r.program = .call c next) (wait : r.wait = .asleep wake) (unshared : s.Unshared 0)
      (later : s.now < wake) (fewer : left < n) (fits : wake + left * s.control.latency ≤ limit)
      (within : ∀ reply, (next reply).Within left) (undue : ∀ d, r.deadline = some d → s.now < d.after)
      (ends : ∀ d, r.deadline = some d → ∃ a, d.instead.Closes a) : Rests n limit s (.running r)

section Turns

variable (crashed : ArithmeticError → α) (n limit : Nat)

theorem cut_off_finishes (r : Running α) (s later : Store) (program : Program α) (wait : Wait) (unit : Option Book)
    (d : Deadline α) (a : α) (halted : Store.run 0 r.program r.wait r.book s = (.paused program wait unit, later))
    (deadline : r.deadline = some d) (due : d.after ≤ later.now) (closes : d.instead.Closes a) :
    ∃ last, Process.resume crashed 0 r s = (.finished a last.now, last) := by
  obtain ⟨last, ended, _⟩ := run_closes 0 d.instead a .fresh none (later.withdraw 0) closes
  refine ⟨last, ?_⟩
  rw [Process.resume, halted]
  simp only [deadline, Option.filter, due, decide_true, if_true, ended]
  rfl

theorem resume_rests (r : Running α) (s : Store) (ends : ∀ d, r.deadline = some d → ∃ a, d.instead.Closes a)
    (runs : Runs 0 n limit s (Store.run 0 r.program r.wait r.book s)) :
    Rests n limit (Process.resume crashed 0 r s).2 (Process.resume crashed 0 r s).1 := by
  generalize halted : Store.run 0 r.program r.wait r.book s = x at runs
  obtain ⟨stop, later⟩ := x
  obtain ⟨halts, proceeds⟩ := runs
  simp only at halts proceeds
  cases halts with
  | finished a book =>
      rw [Process.resume, halted]
      exact .finished a _
  | crashed e =>
      rw [Process.resume, halted]
      exact .finished (crashed e) _
  | asleep c next wake left book sooner fewer fits within =>
      cases due : r.deadline.filter fun d => d.after ≤ later.now with
      | some d =>
          have deadline := Option.eq_some_of_filter_eq_some due
          obtain ⟨a, closes⟩ := ends d deadline
          have passed : d.after ≤ later.now := by simpa [deadline] using due
          obtain ⟨last, cut⟩ := cut_off_finishes crashed r s later _ _ _ d a halted deadline passed closes
          rw [cut]
          exact .finished a _
      | none =>
          rw [Process.resume, halted]
          simp only [due]
          refine .asleep _ c next wake left rfl rfl proceeds.unshared ?_ fewer ?_ within ?_ ends
          · rwa [proceeds.now]
          · rwa [proceeds.control]
          · intro d deadline
            rw [show r.deadline = some d from deadline] at due
            simpa using due

theorem waiting_rests (t : Task α) (s : Store) (unshared : s.Unshared 0) (within : t.body.Within n)
    (fits : s.now + n * s.control.latency ≤ limit) (ends : ∀ d, t.deadline = some d → ∃ a, d.instead.Closes a) :
    Rests n limit ((Process.waiting (.task t)).poll crashed 0 s).2 ((Process.waiting (.task t)).poll crashed 0 s).1 := by
  refine resume_rests crashed n limit _ s ?_ (lone_runs 0 n limit t.body within none s unshared fits)
  intro d deadline
  obtain ⟨given, found, rfl⟩ := Option.map_eq_some_iff.mp deadline
  exact ends given found

theorem awake_rests (r : Running α) (s : Store) (rests : Rests n limit s (.running r)) :
    ∃ time, (Process.running r).nextTime = some time ∧ s.now < time ∧ time ≤ limit ∧
      (Process.running r).isReady { s with now := time } 0 = true ∧
      ∃ left < n, Rests left limit (Process.resume crashed 0 r { s with now := time }).2
        (Process.resume crashed 0 r { s with now := time }).1 := by
  cases rests with
  | asleep _ c next wake left program wait unshared later fewer fits within undue ends =>
      have woken : ∀ time, wake ≤ time → time + left * s.control.latency ≤ limit →
          Rests left limit (Process.resume crashed 0 r { s with now := time }).2
            (Process.resume crashed 0 r { s with now := time }).1 := by
        intro time awake enough
        refine resume_rests crashed left limit r _ ends ?_
        have alone : Store.Unshared { s with now := time } 0 := ⟨unshared.free, unshared.admits⟩
        rw [program, wait]
        refine going_runs 0 left limit c next r.book _ _ alone ?_ ?_
        · simp only [Store.approach, if_pos awake]
          exact unshared_enter _ 0 c alone
        · intro reply unit mid proceeds
          refine lone_runs 0 left limit _ (within reply) unit mid proceeds.unshared ?_
          rw [proceeds.now, proceeds.control]
          exact enough
      cases deadline : r.deadline with
      | none =>
          refine ⟨wake, by simp only [Process.nextTime, wait, deadline], later, by omega, ?_, left, fewer,
            woken wake (Nat.le_refl wake) fits⟩
          simp only [Process.isReady, wait, Nat.le_refl, decide_true, Bool.true_or]
      | some d =>
          have notYet := undue d deadline
          refine ⟨min wake d.after, ?_, by omega, by omega, ?_, left, fewer, ?_⟩
          · simp only [Process.nextTime, wait, deadline]
          · simp only [Process.isReady, wait, deadline, Option.any_some]
            by_cases first : wake ≤ d.after
            · simp [first]
            · simp [Nat.le_of_not_le first]
          · by_cases first : wake ≤ d.after
            · exact woken _ (by omega) (by omega)
            · obtain ⟨a, closes⟩ := ends d deadline
              have early : ¬ wake ≤ min wake d.after := by omega
              have halted : Store.run 0 r.program r.wait r.book { s with now := min wake d.after } =
                  (.paused r.program r.wait r.book, { s with now := min wake d.after }) := by
                rw [program, wait, Store.run]
                simp only [Store.approach, if_neg early, Store.enqueue]
              obtain ⟨last, cut⟩ := cut_off_finishes crashed r _ _ _ _ _ d a halted deadline
                (by simp only; omega) closes
              rw [cut]
              exact .finished a _

theorem rests_not_ready (s : Store) (p : Process α) (rests : Rests n limit s p) : p.isReady s 0 = false := by
  cases rests with
  | finished a time => rfl
  | asleep r c next wake left _ wait _ later _ _ _ undue _ =>
      have sleeping : ¬ wake ≤ s.now := Nat.not_le.mpr later
      cases deadline : r.deadline with
      | none => simp [Process.isReady, wait, deadline, sleeping]
      | some d => simp [Process.isReady, wait, deadline, sleeping, undue d deadline]

end Turns

-- What becomes of a task that nobody disturbs: what its program comes to by itself, or trouble and no trace.
inductive Fate (t : Task α) (bad : α → Prop) (now : Stamp) (book : Book) (a : α) (later : Book) : Prop
  | alone (result : t.body.solo now none book = .ok (a, later))
  | trouble (isBad : bad a) (kept : later = book)

def loneRole (t : Task α) (bad : α → Prop) (now : Stamp) : Role α := ⟨0, t.body, bad, (· = now), False⟩

section Schedule

variable (crashed : ArithmeticError → α) (limit : Nat) (t : Task α) (bad : α → Prop) (now : Stamp) (book : Book)
  (orderly : t.Orderly bad) (answers : ∀ now e, t.body.solo now none book ≠ .error e)

structure Under (s : Store) (p : Process α) : Prop where
  clock : s.clock = now
  kept : s.committed = book
  unfinished : p.isFinished = false
  standing : Standing (loneRole t bad now) t s p

include orderly answers in
theorem turn_fate (s : Store) (p : Process α) (under : Under t bad now book s p) :
    (∃ a time, (p.poll crashed 0 s).1 = .finished a time ∧ Fate t bad now book a (p.poll crashed 0 s).2.committed) ∨
      Under t bad now book (p.poll crashed 0 s).2 (p.poll crashed 0 s).1 := by
  have turned := poll_turned crashed (loneRole t bad now) t s under.clock False.elim orderly rfl p under.unfinished
    under.standing
  change Turned crashed _ t s (p.poll crashed 0 s) at turned
  generalize p.poll crashed 0 s = result at turned
  cases turned with
  | standing q later unfinished left kept standing =>
      exact .inr ⟨left.clock.trans under.clock, kept.trans under.kept, unfinished, standing⟩
  | answered a time later left ending =>
      refine .inl ⟨a, time, rfl, ?_⟩
      cases ending with
      | trouble _ isBad kept => exact .trouble isBad (kept.trans under.kept)
      | alone shown seen result locked =>
          refine .alone ?_
          rw [under.kept, show shown = now from seen] at result
          exact result
  | refused e time later left kept fails alone =>
      obtain ⟨shown, refused⟩ := alone
      rw [under.kept] at refused
      exact absurd refused (answers shown e)

theorem single_settle (s : Store) (p : Process α) (fuel : Nat) (ready : p.isReady s 0 = true)
    (still : (p.poll crashed 0 s).1.isReady (p.poll crashed 0 s).2 0 = false) :
    System.settle crashed (fuel + 1) ⟨s, [p]⟩ = ⟨(p.poll crashed 0 s).2, [(p.poll crashed 0 s).1]⟩ := by
  have single : ∀ (s : Store) (p : Process α), System.anyReady ⟨s, [p]⟩ = p.isReady s 0 := fun s p => by
    simp [System.anyReady, System.ids, System.isReady]
  have swept : System.sweep crashed ⟨s, [p]⟩ = ⟨(p.poll crashed 0 s).2, [(p.poll crashed 0 s).1]⟩ := by
    simp [System.sweep, System.ids, System.isReady, System.step, ready]
  rw [System.settle, single, if_pos ready, swept]
  cases fuel with
  | zero => rfl
  | succ fuel => rw [System.settle, single, if_neg (by rw [still]; exact Bool.false_ne_true)]

-- The induction is on the calls that the process may still make: each time that it wakes up, it makes one.
theorem until_fate (n fuel : Nat) (s : Store) (p : Process α) (orderly : t.Orderly bad)
    (answers : ∀ now e, t.body.solo now none book ≠ .error e) (under : Under t bad now book s p)
    (ready : p.isReady s 0 = true) (rests : Rests n limit (p.poll crashed 0 s).2 (p.poll crashed 0 s).1)
    (enough : n < fuel) :
    ∃ a time later, System.runUntil crashed limit fuel ⟨s, [p]⟩ = ⟨later, [.finished a time]⟩ ∧
      Fate t bad now book a later.committed := by
  induction n using Nat.strongRecOn generalizing fuel s p with
  | ind n ih =>
      obtain ⟨fuel, rfl⟩ : ∃ k, fuel = k + 1 := ⟨fuel - 1, by omega⟩
      have settled := single_settle crashed s p 127 ready (rests_not_ready n limit _ _ rests)
      have rounds : System.rounds ⟨s, [p]⟩ = 127 + 1 := rfl
      have turned := turn_fate crashed t bad now book orderly answers s p under
      simp only [System.runUntil, rounds, settled]
      generalize (p.poll crashed 0 s).1 = q at rests turned ⊢
      generalize (p.poll crashed 0 s).2 = later at rests turned ⊢
      rcases turned with ⟨a, time, rfl, fate⟩ | under
      · exact ⟨a, time, later, rfl, fate⟩
      · cases rests with
        | finished a time => cases under.unfinished
        | asleep r c next wake left program wait unshared sooner fewer fits within undue ends =>
            have rests : Rests n limit later (.running r) :=
              .asleep r c next wake left program wait unshared sooner fewer fits within undue ends
            obtain ⟨time, nextTime, future, inTime, ready, k, smaller, resumed⟩ :=
              awake_rests crashed n limit r later rests
            have next : System.nextTime ⟨later, [.running r]⟩ = some time := by
              simp [System.nextTime, nextTime]
            have going : (System.isFinished ⟨later, [Process.running r]⟩ || decide (limit ≤ later.now)) = false := by
              simp [System.isFinished, Process.isFinished, Nat.lt_of_lt_of_le future inTime]
            have moved : System.moveTo (min limit time) ⟨later, [Process.running r]⟩ =
                ⟨{ later with now := time }, [.running r]⟩ := by
              simp [System.moveTo, Nat.min_eq_right inTime, Nat.max_eq_right (Nat.le_of_lt future)]
            simp only [going, Bool.false_eq_true, if_false, next, Option.getD_some, moved]
            refine ih k smaller fuel { later with now := time } (.running r) ?_ ready resumed (by omega)
            refine ⟨under.clock, under.kept, rfl, ?_⟩
            exact standing_others (loneRole t bad now) _ _ t later _ _ (fun _ seen => seen) id (Book.extends_refl _)
              (fun _ => ⟨rfl, rfl⟩) under.standing

/-- A task that has the store to itself answers, within the latency of its calls. -/
theorem lone_fate (n more : Nat) (s : Store) (orderly : t.Orderly bad)
    (answers : ∀ now e, t.body.solo now none s.committed ≠ .error e) (idle : s.owner = none ∧ s.queue = [])
    (within : t.body.Within n) (short : n < 128) :
    ∃ a time after, System.run crashed (s.now + n * s.control.latency + more) s [.task t] = (some [(a, time)], after) ∧
      Fate t bad s.clock s.committed a after.committed := by
  have unshared : s.Unshared 0 := ⟨idle.2, .inl idle.1⟩
  have ends : ∀ d, t.deadline = some d → ∃ a, d.instead.Closes a := by
    intro d deadline
    obtain ⟨a, _, closes⟩ := orderly.2 d deadline
    exact ⟨a, closes⟩
  have rests := waiting_rests crashed n (s.now + n * s.control.latency + more) t s unshared within (by omega) ends
  obtain ⟨a, time, later, ran, fate⟩ :=
    until_fate crashed (s.now + n * s.control.latency + more) t bad s.clock s.committed
    n 128 s (.waiting (.task t)) orderly answers ⟨rfl, rfl, rfl, .waiting False.elim⟩ rfl rests short
  refine ⟨a, time, later, ?_, fate⟩
  have start : System.ofJobs s [Job.task t] = ⟨s, [.waiting (.task t)]⟩ := rfl
  have rounds : System.rounds ⟨s, [Process.waiting (Job.task t)]⟩ = 128 := rfl
  simp only [System.run, start, rounds, ran]
  rfl

theorem lone_answer (n more : Nat) (s : Store) (orderly : t.Orderly fun _ => False) (a : α)
    (reads : ∀ now, t.body.solo now none s.committed = .ok (a, s.committed)) (idle : s.owner = none ∧ s.queue = [])
    (within : t.body.Within n) (short : n < 128) :
    ∃ time after, System.run crashed (s.now + n * s.control.latency + more) s [.task t] = (some [(a, time)], after) ∧
      after.committed = s.committed := by
  have answers : ∀ now e, t.body.solo now none s.committed ≠ .error e := by
    intro now e failed
    rw [reads] at failed
    cases failed
  obtain ⟨b, time, after, ran, fate⟩ := lone_fate crashed t _ n more s orderly answers idle within short
  cases fate with
  | trouble impossible _ => exact impossible.elim
  | alone result =>
      rw [reads] at result
      obtain ⟨rfl, kept⟩ := Prod.mk.inj (Except.ok.inj result)
      exact ⟨time, after, ran, kept.symm⟩

end Schedule

end DoubleEntry
