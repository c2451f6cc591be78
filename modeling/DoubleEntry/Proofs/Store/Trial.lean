import DoubleEntry.Proofs.Program.Trial
import DoubleEntry.Proofs.Store.Lone
import DoubleEntry.Proofs.Store.Mirror

/-!
A task that has the store to itself, to the millisecond. It is through after the latency of each call that passes the
check for faults, with what its program comes to when it is tried; and if its deadline is before that, it is cut off
there, and nothing of it is left.
-/

set_option autoImplicit false

namespace DoubleEntry

variable {α : Type}

structure Lent (start s : Store) (unit : Option Book) : Prop where
  control : s.control = start.control
  units : s.openUnits = start.openUnits
  clock : s.clock = start.clock
  free : s.queue = []
  owner : s.owner = none ∨ s.owner = some (.process 0) ∧ unit.isSome = true

section Lent

variable (start s : Store) (unit : Option Book) (lent : Lent start s unit)

include lent

theorem lent_unshared : s.Unshared 0 :=
  ⟨lent.free, lent.owner.imp id And.left⟩

theorem lent_at (time : Nat) : Lent start { s with now := time } unit :=
  ⟨lent.control, lent.units, lent.clock, lent.free, lent.owner⟩

theorem lent_release (after : Option Book) : Lent start s.release after ∧ s.release = { s with owner := none } := by
  have released : s.release = { s with owner := none } := by simp only [Store.release, lent.free]
  rw [released]
  exact ⟨⟨lent.control, lent.units, lent.clock, lent.free, .inl rfl⟩, rfl⟩

theorem lent_withdraw : s.withdraw 0 = { s with owner := none } := by
  by_cases own : s.holds (.process 0) = true
  · rw [Store.withdraw, if_pos own]
    exact (lent_release start s unit lent none).2
  · have free : s.owner = none := by
      rcases lent.owner with free | ⟨held, _⟩
      · exact free
      · exact absurd (by simp [Store.holds, held]) own
    rw [Store.withdraw, if_neg own]
    obtain ⟨committed, control, owner, queue, openUnits, now, clock, log⟩ := s
    cases free
    obtain rfl : queue = [] := lent.free
    rfl

theorem lent_perform (c : Call) (reply : Except StoreError c.Reply) (after : Option Book) (later : Book)
    (served : Book.serve unit s.committed c = .ok (reply, after, later)) :
    ∃ mid, s.perform 0 unit c = .ok (reply, after, mid) ∧ Lent start mid after ∧ mid.committed = later ∧
      mid.now = s.now ∧ mid.log = s.log := by
  have released : ∀ (b : Book) (owner : Option Owner),
      Store.release { s with committed := b, owner } = { s with committed := b, owner := none } := fun b owner => by
    simp only [Store.release, lent.free]
  have left : ∀ (b : Book) (other : Option Book), Lent start { s with committed := b, owner := none } other :=
    fun b other => ⟨lent.control, lent.units, lent.clock, lent.free, .inl rfl⟩
  by_cases isWork : c.isWork = true
  · rw [serve_work unit s.committed c isWork] at served
    rw [Store.perform_work s 0 unit c isWork]
    cases answered : (unit.getD s.committed).answer c with
    | error e =>
        rw [answered] at served
        cases served
    | ok result =>
        rw [answered] at served
        cases served
        refine ⟨s, rfl, ⟨lent.control, lent.units, lent.clock, lent.free, ?_⟩, rfl, rfl, rfl⟩
        exact lent.owner.imp id fun own => ⟨own.1, rfl⟩
  · cases c with
    | getAccount account | listEntries account =>
        cases served
        exact ⟨_, congrArg (fun s => Except.ok (_, unit, s)) (released s.committed _), left _ _, rfl, rfl, rfl⟩
    | begin =>
        cases served
        exact ⟨_, rfl, ⟨lent.control, lent.units, lent.clock, lent.free, .inr ⟨rfl, rfl⟩⟩, rfl, rfl, rfl⟩
    | commit =>
        cases served
        exact ⟨_, congrArg (fun s => Except.ok (_, none, s)) (released _ s.owner), left _ _, rfl, rfl, rfl⟩
    | rollback =>
        cases served
        exact ⟨_, congrArg (fun s => Except.ok (_, none, s)) (released s.committed s.owner), left _ _, rfl, rfl, rfl⟩
    | getAccounts ids | createAccount account | debit id amount now | credit id amount now | append e =>
        cases isWork rfl

theorem lent_failed (c : Call) :
    ∃ mid, s.failed c unit = (if c.isEnd then none else unit, mid) ∧
      Lent start mid (if c.isEnd then none else unit) ∧ mid.committed = s.committed ∧ mid.now = s.now ∧ mid.log = s.log := by
  by_cases ends : c.isEnd = true
  · obtain ⟨left, released⟩ := lent_release start s unit lent none
    rw [if_pos ends, Store.failed, if_pos ends]
    exact ⟨_, rfl, left, by rw [released], by rw [released], by rw [released]⟩
  · rw [if_neg ends, Store.failed, if_neg ends]
    exact ⟨s, rfl, lent, rfl, rfl, rfl⟩

theorem lent_close : Process.close s none unit = { s with owner := none } := by
  cases unit with
  | some book => exact (lent_release start s _ lent none).2
  | none =>
      have free : s.owner = none := lent.owner.resolve_right fun own => by cases own.2
      rw [Process.close]
      obtain ⟨committed, control, owner, queue, openUnits, now, clock, log⟩ := s
      cases free
      rfl

end Lent

def Store.leftAt (start : Store) (book : Book) (now : Nat) (log : List LogLine) : Store :=
  { start with committed := book, now, log }

theorem lent_left (start s : Store) (unit : Option Book) (idle : start.owner = none ∧ start.queue = [])
    (lent : Lent start s unit) : { s with owner := none } = start.leftAt s.committed s.now s.log := by
  obtain ⟨committed, control, owner, queue, openUnits, now, clock, log⟩ := s
  obtain ⟨_, _, _, _, _, _, _, _⟩ := start
  obtain ⟨rfl, rfl, rfl, rfl, _⟩ := lent
  obtain ⟨rfl, rfl⟩ := idle
  rfl

/-- How far a turn goes: to the end, or to the next call that passes, which it sleeps for. -/
inductive Leg (start s : Store) (x : Tried α) : Stop α × Store → Prop
  | finished (unit : Option Book) (later : Store) (lent : Lent start later unit) (now : later.now = s.now)
      (book : later.committed = x.book) (log : later.log = x.log) (atOnce : x.calls * start.control.latency = 0) :
      Leg start s x (.finished x.answer unit, later)
  | asleep (c : Call) (next : Except StoreError c.Reply → Program α) (unit : Option Book) (later : Store)
      (lent : Lent start later unit) (now : later.now = s.now) (kept : later.committed = s.committed)
      (waits : 0 < start.control.latency) (passes : start.control.failure? c = none)
      (last : (Program.call c next).CommitsLast)
      (tried : (Program.call c next).trial start.control start.clock unit later.committed later.log = .ok x) :
      Leg start s x (.paused (.call c next) (.asleep (s.now + start.control.latency)) unit, later)

theorem served_committed (unit after : Option Book) (committed later : Book) (c : Call)
    (reply : Except StoreError c.Reply) (other : c ≠ .commit)
    (served : Book.serve unit committed c = .ok (reply, after, later)) : later = committed := by
  by_cases isWork : c.isWork = true
  · rw [serve_work unit committed c isWork] at served
    cases answered : (unit.getD committed).answer c with
    | error e =>
        rw [answered] at served
        cases served
    | ok result =>
        rw [answered] at served
        cases served
        rfl
  · cases c with
    | commit => exact absurd rfl other
    | getAccount id | listEntries id | begin | rollback =>
        cases served
        rfl
    | getAccounts ids | createAccount account | debit id amount now | credit id amount now | append e =>
        cases isWork rfl

section Legs

variable (start : Store)

-- A leg may begin before what it begins with, unless something was committed in between and more calls come.
theorem leg_after (s mid : Store) (x : Tried α) (stop : Stop α × Store) (now : mid.now = s.now)
    (kept : mid.committed = s.committed ∨ x.calls = 0) (leg : Leg start mid x stop) : Leg start s x stop := by
  cases leg with
  | finished unit later lent same book log atOnce => exact .finished unit later lent (same.trans now) book log atOnce
  | asleep c next unit later lent same before waits passes last tried =>
      obtain ⟨_, _, _, y, _, _, rfl⟩ := Program.trial_passed _ _ c next unit later.committed later.log passes x tried
      have still : mid.committed = s.committed := kept.resolve_right (Nat.succ_ne_zero y.calls)
      rw [now]
      exact .asleep c next unit later lent (same.trans now) (before.trans still) waits passes last tried

theorem leg_counted (s : Store) (x : Tried α) (stop : Stop α × Store) (atOnce : start.control.latency = 0)
    (leg : Leg start s x stop) : Leg start s x.counted stop := by
  cases leg with
  | finished unit later lent now book log _ =>
      exact .finished (x := x.counted) unit later lent now book log (by rw [atOnce, Nat.mul_zero])
  | asleep c next unit later lent now kept waits passes last tried =>
      rw [atOnce] at waits
      cases waits

theorem leg_served (s : Store) (x : Tried α) (c : Call) (next : Except StoreError c.Reply → Program α)
    (unit : Option Book) (wait : Wait) (lent : Lent start s unit) (going : s.approach 0 c wait = .go)
    (passes : start.control.failure? c = none) (last : (Program.call c next).CommitsLast)
    (tried : (Program.call c next).trial start.control start.clock unit s.committed s.log = .ok x)
    (rest : ∀ reply unit mid y, Lent start mid unit → (next reply).CommitsLast →
      (next reply).trial start.control start.clock unit mid.committed mid.log = .ok y →
      Leg start mid y (Store.run 0 (next reply) .fresh unit mid)) :
    ∃ y, x = y.counted ∧ Leg start s y (Store.run 0 (.call c next) wait unit s) := by
  obtain ⟨reply, after, later, y, served, triedRest, rfl⟩ :=
    Program.trial_passed start.control start.clock c next unit s.committed s.log passes x tried
  obtain ⟨mid, performed, lentMid, committed, now, log⟩ := lent_perform start s unit lent c reply after later served
  have leg := rest reply after mid y lentMid (last.2 reply) (by rw [committed, log]; exact triedRest)
  refine ⟨y, rfl, ?_⟩
  rw [Store.run, going, performed]
  refine leg_after start s mid y _ now ?_ leg
  by_cases commits : c = .commit
  · obtain ⟨a, closes⟩ := last.1 commits reply
    obtain ⟨lines, ended⟩ := Program.trial_closes start.control start.clock _ a closes after later s.log
    rw [ended] at triedRest
    cases triedRest
    exact .inr rfl
  · left
    rw [committed]
    exact served_committed unit after s.committed later c reply commits served

theorem fresh_leg (p : Program α) (unit : Option Book) (s : Store) (x : Tried α) (lent : Lent start s unit)
    (last : p.CommitsLast) (tried : p.trial start.control start.clock unit s.committed s.log = .ok x) :
    Leg start s x (Store.run 0 p .fresh unit s) := by
  induction p generalizing unit s x with
  | done a =>
      cases tried
      exact .finished (x := ⟨a, s.committed, 0, s.log⟩) unit s lent rfl rfl rfl (Nat.zero_mul _)
  | log line rest ih =>
      have noted : Lent start (s.logLine line) unit := ⟨lent.control, lent.units, lent.clock, lent.free, lent.owner⟩
      exact leg_after start s (s.logLine line) x _ rfl (.inl rfl) (ih unit (s.logLine line) x noted last tried)
  | clock next ih =>
      rw [Store.run, lent.clock]
      exact ih start.clock unit s x lent (last _) tried
  | call c next ih =>
      cases fails : start.control.failure? c with
      | some e =>
          rw [Program.trial_failed _ _ c next unit s.committed s.log e fails] at tried
          obtain ⟨mid, failed, lentMid, kept, now, log⟩ := lent_failed start s unit lent c
          have failing : s.approach 0 c .fresh = .failed e := by simp only [Store.approach, lent.control, fails]
          rw [Store.run, failing, failed]
          refine leg_after start s mid x _ now (.inl kept) (ih _ _ mid x lentMid (last.2 _) ?_)
          rw [kept, log]
          exact tried
      | none =>
          by_cases atOnce : start.control.latency = 0
          · have going : s.approach 0 c .fresh = .go := by
              simp only [Store.approach, lent.control, fails, if_pos atOnce]
              exact unshared_enter s 0 c (lent_unshared start s unit lent)
            obtain ⟨y, rfl, leg⟩ := leg_served start s x c next unit .fresh lent going fails last tried
              fun reply unit mid y => ih reply unit mid y
            exact leg_counted start s y _ atOnce leg
          · have sleeping : s.approach 0 c .fresh = .wait (.asleep (s.now + start.control.latency)) := by
              simp only [Store.approach, lent.control, fails, if_neg atOnce]
            rw [Store.run, sleeping]
            exact .asleep c next unit s lent rfl rfl (Nat.pos_of_ne_zero atOnce) fails last tried

theorem woken_leg (c : Call) (next : Except StoreError c.Reply → Program α) (unit : Option Book) (s : Store) (x : Tried α)
    (wake : Nat) (awake : wake ≤ s.now) (lent : Lent start s unit) (passes : start.control.failure? c = none)
    (last : (Program.call c next).CommitsLast)
    (tried : (Program.call c next).trial start.control start.clock unit s.committed s.log = .ok x) :
    ∃ y, x = y.counted ∧ Leg start s y (Store.run 0 (.call c next) (.asleep wake) unit s) := by
  have going : s.approach 0 c (.asleep wake) = .go := by
    simp only [Store.approach, if_pos awake]
    exact unshared_enter s 0 c (lent_unshared start s unit lent)
  exact leg_served start s x c next unit _ lent going passes last tried
    fun reply unit mid y lent => fresh_leg start _ unit mid y lent

end Legs

/-- What a turn leads to: to the end, to the deadline, or to sleep that is not beyond it. -/
inductive Stride (start s : Store) (x : Tried α) (deadline : Option (Deadline α)) : Process α × Store → Prop
  | through (atOnce : x.calls * start.control.latency = 0) :
      Stride start s x deadline (.finished x.answer s.now, start.leftAt x.book s.now x.log)
  | cut (d : Deadline α) (a : α) (log : List LogLine) (limited : deadline = some d) (due : d.after ≤ s.now)
      (closes : d.instead.Closes a) (going : 0 < x.calls * start.control.latency) :
      Stride start s x deadline (.finished a s.now, start.leftAt s.committed s.now log)
  | asleep (c : Call) (next : Except StoreError c.Reply → Program α) (unit : Option Book) (later : Store)
      (lent : Lent start later unit) (now : later.now = s.now) (kept : later.committed = s.committed)
      (waits : 0 < start.control.latency) (passes : start.control.failure? c = none)
      (last : (Program.call c next).CommitsLast)
      (tried : (Program.call c next).trial start.control start.clock unit later.committed later.log = .ok x)
      (undue : ∀ d, deadline = some d → s.now < d.after) :
      Stride start s x deadline
        (.running ⟨.call c next, .asleep (s.now + start.control.latency), unit, none, deadline⟩, later)

-- All that is left of a task at some time: it is through, or was cut off at its deadline before that.
inductive Ended (start : Store) (x : Tried α) (deadline : Option (Deadline α)) (time : Nat) : System α → Prop
  | through (inTime : ∀ d, deadline = some d → time ≤ d.after) :
      Ended start x deadline time ⟨start.leftAt x.book time x.log, [.finished x.answer time]⟩
  | cut (d : Deadline α) (a : α) (log : List LogLine) (limited : deadline = some d) (closes : d.instead.Closes a)
      (late : d.after < time) :
      Ended start x deadline time ⟨start.leftAt start.committed d.after log, [.finished a d.after]⟩

section Turns

variable (crashed : ArithmeticError → α) (start : Store) (idle : start.owner = none ∧ start.queue = [])

theorem passing_counts (c : Call) (next : Except StoreError c.Reply → Program α) (unit : Option Book) (committed : Book)
    (log : List LogLine) (x : Tried α) (passes : start.control.failure? c = none)
    (tried : (Program.call c next).trial start.control start.clock unit committed log = .ok x) : 0 < x.calls := by
  obtain ⟨_, _, _, y, _, _, rfl⟩ := Program.trial_passed _ _ c next unit committed log passes x tried
  exact Nat.succ_pos y.calls

include idle

theorem resume_cut (r : Running α) (s later : Store) (program : Program α) (wait : Wait) (unit : Option Book)
    (d : Deadline α) (a : α) (halted : Store.run 0 r.program r.wait r.book s = (.paused program wait unit, later))
    (lent : Lent start later unit) (limited : r.deadline = some d) (due : d.after ≤ later.now)
    (closes : d.instead.Closes a) : ∃ log, Process.resume crashed 0 r s =
      (.finished a later.now, start.leftAt later.committed later.now log) := by
  obtain ⟨log, ended⟩ := run_logs 0 d.instead a .fresh none (later.withdraw 0) closes
  rw [lent_withdraw start later unit lent, lent_left start later unit idle lent] at ended
  refine ⟨log, ?_⟩
  rw [Process.resume, halted]
  simp only [limited, Option.filter, due, decide_true, if_true, lent_withdraw start later unit lent,
    lent_left start later unit idle lent, ended]
  rfl

theorem resume_strides (r : Running α) (s : Store) (x : Tried α) (keeps : r.keep = none)
    (ends : ∀ d, r.deadline = some d → ∃ a, d.instead.Closes a)
    (leg : Leg start s x (Store.run 0 r.program r.wait r.book s)) :
    Stride start s x r.deadline (Process.resume crashed 0 r s) := by
  generalize halted : Store.run 0 r.program r.wait r.book s = y at leg
  cases leg with
  | finished unit later lent now book log atOnce =>
      have closed : Process.close later none unit = start.leftAt x.book s.now x.log := by
        rw [lent_close start later unit lent, lent_left start later unit idle lent, now, book, log]
      rw [Process.resume, halted]
      simp only [Process.stopped, keeps, closed, now]
      exact .through atOnce
  | asleep c next unit later lent now kept waits passes last tried =>
      have counts := passing_counts start c next unit later.committed later.log x passes tried
      cases due : r.deadline.filter fun d => d.after ≤ later.now with
      | some d =>
          have limited := Option.eq_some_of_filter_eq_some due
          have passed : d.after ≤ later.now := by simpa [limited] using due
          obtain ⟨a, closes⟩ := ends d limited
          obtain ⟨log, cut⟩ := resume_cut crashed start idle r s later _ _ unit d a halted lent limited passed closes
          rw [cut, now, kept]
          exact .cut d a log limited (by rwa [now] at passed) closes (Nat.mul_pos counts waits)
      | none =>
          rw [Process.resume, halted]
          simp only [due, keeps]
          refine .asleep c next unit later lent now kept waits passes last tried ?_
          intro d limited
          rw [limited, now] at due
          simpa using due

end Turns

section Schedule

variable (crashed : ArithmeticError → α) (start : Store) (deadline : Option (Deadline α))

theorem stride_rests (s : Store) (x : Tried α) (y : Process α × Store) (stride : Stride start s x deadline y) :
    y.1.isReady y.2 0 = false := by
  cases stride with
  | through atOnce | cut d a log limited due closes going => rfl
  | asleep c next unit later lent now kept waits passes last tried undue =>
      have sleeping : ¬ s.now + start.control.latency ≤ s.now := by omega
      cases limited : deadline with
      | none => simp [Process.isReady, now, sleeping]
      | some d => simp [Process.isReady, now, sleeping, undue d limited]

theorem single_round (limit fuel : Nat) (s later : Store) (p q : Process α) (ready : p.isReady s 0 = true)
    (polled : p.poll crashed 0 s = (q, later)) (still : q.isReady later 0 = false) :
    System.runUntil crashed limit (fuel + 1) ⟨s, [p]⟩ =
      if (q.isFinished || decide (limit ≤ later.now)) = true then ⟨later, [q]⟩
      else System.runUntil crashed limit fuel
        ⟨{ later with now := max later.now (min limit (q.nextTime.getD limit)) }, [q]⟩ := by
  have settled := single_settle crashed s p 127 ready (by rw [polled]; exact still)
  have rounds : System.rounds ⟨s, [p]⟩ = 127 + 1 := rfl
  have finished : System.isFinished ⟨later, [q]⟩ = q.isFinished := Bool.and_true _
  have next : System.nextTime ⟨later, [q]⟩ = q.nextTime := by
    simp only [System.nextTime, List.filterMap_cons, List.filterMap_nil]
    cases q.nextTime <;> rfl
  rw [System.runUntil, rounds, settled, polled]
  simp only [finished, next]
  rfl

theorem last_round (limit fuel time : Nat) (s later : Store) (p : Process α) (a : α) (ready : p.isReady s 0 = true)
    (polled : p.poll crashed 0 s = (.finished a time, later)) :
    System.runUntil crashed limit (fuel + 1) ⟨s, [p]⟩ = ⟨later, [.finished a time]⟩ := by
  rw [single_round crashed limit fuel s later p _ ready polled rfl]
  rfl

theorem ended_counted (x : Tried α) (time : Nat) (y : System α) (ended : Ended start x deadline time y) :
    Ended start x.counted deadline time y := by
  cases ended with
  | through inTime => exact .through (x := x.counted) inTime
  | cut d a log limited closes late => exact .cut d a log limited closes late

theorem sleeper_next (program : Program α) (now wake limit : Nat) (unit : Option Book) (keep : Option String)
    (soon : now < wake) (undue : ∀ d, deadline = some d → now < d.after)
    (horizon : wake ≤ limit ∨ ∃ d, deadline = some d ∧ d.after ≤ limit) :
    ∃ time, (Process.running ⟨program, .asleep wake, unit, keep, deadline⟩).nextTime = some time ∧ now < time ∧
      time ≤ limit ∧ ((time = wake ∧ ∀ d, deadline = some d → wake ≤ d.after) ∨
        ∃ d, deadline = some d ∧ time = d.after ∧ d.after < wake) := by
  cases deadline with
  | none =>
      have enough : wake ≤ limit := by
        rcases horizon with enough | ⟨_, impossible, _⟩
        · exact enough
        · cases impossible
      exact ⟨wake, rfl, soon, enough, .inl ⟨rfl, nofun⟩⟩
  | some d =>
      have either : wake ≤ limit ∨ d.after ≤ limit := by
        rcases horizon with enough | ⟨_, ⟨⟩, enough⟩
        · exact .inl enough
        · exact .inr enough
      by_cases early : d.after < wake
      · have next : (Process.running ⟨program, .asleep wake, unit, keep, some d⟩).nextTime = some d.after := by
          simp only [Process.nextTime, Nat.min_eq_right (Nat.le_of_lt early)]
        exact ⟨d.after, next, undue d rfl, by omega, .inr ⟨d, rfl, rfl, early⟩⟩
      · have next : (Process.running ⟨program, .asleep wake, unit, keep, some d⟩).nextTime = some wake := by
          simp only [Process.nextTime, Nat.min_eq_left (Nat.le_of_not_lt early)]
        refine ⟨wake, next, soon, by omega, .inl ⟨rfl, ?_⟩⟩
        rintro _ ⟨⟩
        exact Nat.le_of_not_lt early

theorem sleeper_round (limit fuel time : Nat) (s later : Store) (p : Process α) (r : Running α)
    (ready : p.isReady s 0 = true) (polled : p.poll crashed 0 s = (.running r, later))
    (still : (Process.running r).isReady later 0 = false) (now : later.now = s.now)
    (next : (Process.running r).nextTime = some time) (after : s.now < time) (before : time ≤ limit) :
    System.runUntil crashed limit (fuel + 1) ⟨s, [p]⟩ =
      System.runUntil crashed limit fuel ⟨{ later with now := time }, [.running r]⟩ := by
  have going : ((Process.running r).isFinished || decide (limit ≤ later.now)) = false := by
    have within : ¬ limit ≤ later.now := by omega
    simp [Process.isFinished, within]
  have moved : max later.now (min limit time) = time := by omega
  rw [single_round crashed limit fuel s later p _ ready polled still, going, if_neg Bool.false_ne_true, next,
    Option.getD_some, moved]

variable (idle : start.owner = none ∧ start.queue = []) (ends : ∀ d, deadline = some d → ∃ a, d.instead.Closes a)

include idle ends

theorem deadline_round (limit fuel : Nat) (s : Store) (x : Tried α) (r : Running α) (wake time : Nat) (d : Deadline α)
    (limited : deadline = some d) (same : r.deadline = deadline) (calls : ∃ c next, r.program = .call c next)
    (wait : r.wait = .asleep wake) (early : d.after < wake) (lent : Lent start s r.book) (now : s.now = d.after)
    (kept : s.committed = start.committed) (late : d.after < time) :
    Ended start x deadline time (System.runUntil crashed limit (fuel + 1) ⟨s, [.running r]⟩) := by
  obtain ⟨c, next, program⟩ := calls
  obtain ⟨a, closes⟩ := ends d limited
  have own : r.deadline = some d := same.trans limited
  have notAwake : ¬ wake ≤ s.now := by omega
  have halted : Store.run 0 r.program r.wait r.book s = (.paused r.program r.wait r.book, s) := by
    rw [program, wait, Store.run]
    simp only [Store.approach, if_neg notAwake, Store.enqueue]
  obtain ⟨log, cut⟩ := resume_cut crashed start idle r s s _ _ r.book d a halted lent own (Nat.le_of_eq now.symm) closes
  have ready : (Process.running r).isReady s 0 = true := by
    simp [Process.isReady, own, now]
  rw [last_round crashed limit fuel _ s _ (.running r) a ready cut, kept, now]
  exact .cut d a log limited closes late

theorem woken_stride (c : Call) (next : Except StoreError c.Reply → Program α) (unit : Option Book) (later : Store)
    (x : Tried α) (wake : Nat) (lent : Lent start later unit) (passes : start.control.failure? c = none)
    (last : (Program.call c next).CommitsLast)
    (tried : (Program.call c next).trial start.control start.clock unit later.committed later.log = .ok x) :
    ∃ y, x = y.counted ∧ Stride start { later with now := wake } y deadline
      ((Process.running ⟨.call c next, .asleep wake, unit, none, deadline⟩).poll crashed 0
        { later with now := wake }) := by
  have there := lent_at start later unit lent wake
  obtain ⟨y, rfl, leg⟩ := woken_leg start c next unit _ x wake (Nat.le_refl _) there passes last tried
  exact ⟨y, rfl, resume_strides crashed start idle ⟨.call c next, .asleep wake, unit, none, deadline⟩ _ y rfl ends leg⟩

theorem until_ended (limit fuel : Nat) (s : Store) (p : Process α) (x : Tried α) (kept : s.committed = start.committed)
    (stride : Stride start s x deadline (p.poll crashed 0 s)) (ready : p.isReady s 0 = true)
    (inTime : ∀ d, deadline = some d → s.now ≤ d.after)
    (horizon : s.now + x.calls * start.control.latency ≤ limit ∨ ∃ d, deadline = some d ∧ d.after ≤ limit)
    (enough : x.calls < fuel) :
    Ended start x deadline (s.now + x.calls * start.control.latency) (System.runUntil crashed limit fuel ⟨s, [p]⟩) := by
  -- Each round makes one of the calls that are left, or is the last one.
  induction fuel generalizing s p x with
  | zero => cases enough
  | succ fuel ih =>
      generalize polled : p.poll crashed 0 s = y at stride
      cases stride with
      | through atOnce =>
          rw [last_round crashed limit fuel _ s _ p _ ready polled, atOnce]
          exact .through inTime
      | cut d a log limited due closes going =>
          have now : s.now = d.after := Nat.le_antisymm (inTime d limited) due
          rw [last_round crashed limit fuel _ s _ p _ ready polled, kept, now]
          exact .cut d a log limited closes (Nat.lt_add_of_pos_right going)
      | asleep c next unit later lent now same waits passes last tried undue =>
          have still := stride_rests start deadline s x _
            (.asleep c next unit later lent now same waits passes last tried undue)
          have counts := passing_counts start c next unit later.committed later.log x passes tried
          have calls : s.now + start.control.latency ≤ s.now + x.calls * start.control.latency :=
            Nat.add_le_add_left (Nat.le_mul_of_pos_left _ counts) _
          obtain ⟨time, nextTime, after, before, ending⟩ := sleeper_next deadline (.call c next) s.now
            (s.now + start.control.latency) limit unit none (Nat.lt_add_of_pos_right waits) undue
            (horizon.imp (Nat.le_trans calls) id)
          rw [sleeper_round crashed limit fuel time s later p _ ready polled still now nextTime after before]
          rcases ending with ⟨rfl, awakeFirst⟩ | ⟨d, limited, rfl, early⟩
          · obtain ⟨y, rfl, stride⟩ := woken_stride crashed start deadline idle ends c next unit later x
              (s.now + start.control.latency) lent passes last tried
            have total : s.now + y.counted.calls * start.control.latency =
                s.now + start.control.latency + y.calls * start.control.latency := by
              simp only [Tried.counted, Nat.add_mul, Nat.one_mul]
              omega
            rw [total] at horizon ⊢
            apply ended_counted
            refine ih { later with now := s.now + start.control.latency } _ y (same.trans kept) stride ?_ awakeFirst
              horizon (Nat.lt_of_succ_lt_succ enough)
            simp [Process.isReady]
          · cases fuel with
            | zero => omega
            | succ fuel =>
                have there := lent_at start later unit lent d.after
                exact deadline_round crashed start deadline idle ends limit fuel _ x _ _ _ d limited rfl ⟨c, next, rfl⟩
                  rfl early there rfl (same.trans kept) (Nat.lt_of_lt_of_le early calls)

end Schedule

inductive ComesOut (s : Store) (t : Task α) (x : Tried α) : Option (List (α × Nat)) × Store → Prop
  | through (inTime : ∀ d, t.deadline = some d → x.calls * s.control.latency ≤ d.after) :
      ComesOut s t x (some [(x.answer, s.now + x.calls * s.control.latency)],
        s.leftAt x.book (s.now + x.calls * s.control.latency) x.log)
  | cut (d : Deadline α) (a : α) (log : List LogLine) (limited : t.deadline = some d) (closes : d.instead.Closes a)
      (late : d.after < x.calls * s.control.latency) :
      ComesOut s t x (some [(a, s.now + d.after)], s.leftAt s.committed (s.now + d.after) log)

/-- A task that has the store to itself comes out as its trial says, or at its deadline if that is earlier. -/
theorem lone_trial (crashed : ArithmeticError → α) (limit : Nat) (t : Task α) (s : Store) (x : Tried α)
    (idle : s.owner = none ∧ s.queue = []) (ends : ∀ d, t.deadline = some d → ∃ a, d.instead.Closes a)
    (last : t.body.CommitsLast) (tried : t.body.trial s.control s.clock none s.committed s.log = .ok x)
    (short : x.calls < 128)
    (horizon : s.now + x.calls * s.control.latency ≤ limit ∨ ∃ d, t.deadline = some d ∧ s.now + d.after ≤ limit) :
    ComesOut s t x (System.run crashed limit s [.task t]) := by
  have lent : Lent s s none := ⟨rfl, rfl, rfl, idle.2, .inl idle.1⟩
  have leg := fresh_leg s t.body none s x lent last tried
  have endsThen : ∀ d : Deadline α, (t.deadline.map fun d => { d with after := s.now + d.after }) = some d →
      ∃ a, d.instead.Closes a := by
    intro d limited
    obtain ⟨own, given, rfl⟩ := Option.map_eq_some_iff.mp limited
    exact ends own given
  have stride := resume_strides crashed s idle
    ⟨t.body, .fresh, none, none, t.deadline.map fun d => { d with after := s.now + d.after }⟩ s x rfl endsThen leg
  have notPast : ∀ d : Deadline α, (t.deadline.map fun d => { d with after := s.now + d.after }) = some d →
      s.now ≤ d.after := by
    intro d limited
    obtain ⟨own, _, rfl⟩ := Option.map_eq_some_iff.mp limited
    exact Nat.le_add_right s.now own.after
  have ended := until_ended crashed s _ idle endsThen limit 128 s (.waiting (.task t)) x rfl stride rfl notPast
    (horizon.imp id fun ⟨d, limited, within⟩ => ⟨_, by rw [limited]; rfl, within⟩) short
  have ran : System.run crashed limit s [.task t] =
      ((System.runUntil crashed limit 128 ⟨s, [.waiting (.task t)]⟩).results,
        (System.runUntil crashed limit 128 ⟨s, [.waiting (.task t)]⟩).giveUp) := rfl
  rw [ran]
  generalize System.runUntil crashed limit 128 ⟨s, [.waiting (.task t)]⟩ = y at ended
  cases ended with
  | through inTime =>
      refine .through ?_
      intro d limited
      have within := inTime _ (by rw [limited]; rfl)
      exact Nat.le_of_add_le_add_left within
  | cut d a log limited closes late =>
      obtain ⟨own, given, rfl⟩ := Option.map_eq_some_iff.mp limited
      exact .cut own a log given closes (Nat.lt_of_add_lt_add_left late)

end DoubleEntry
