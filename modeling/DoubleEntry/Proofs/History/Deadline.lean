import DoubleEntry.Proofs.History.Demand
import DoubleEntry.Proofs.Ledger.Length
import DoubleEntry.Proofs.Ledger.Trial
import DoubleEntry.Proofs.Store.Trial

/-!
Deadlines of operations that change accounts. An operation that has the store to itself makes so many calls that pass
the check for faults, and takes the latency of each. A deadline that is not before that makes no difference; at one that
is, the operation comes to nothing. So it may be tried again after a deadline, however often, and is carried out once at
most.
-/

set_option autoImplicit false

namespace DoubleEntry

open Ledger (Operation Outcome Result)
open Session (Answer)
open Time (Stamp)

def Ledger.Operation.performed (limit : Option Nat) (horizon : Nat) (s : Store) (o : Operation) :
    Option (List (Answer × Nat)) × Store :=
  System.run Answer.refused horizon s [.task ((Demand.operation o).task limit)]

/-- What a deadline does to an operation that makes `calls` calls and leaves the store as `later` without one. -/
structure Transparent (s : Store) (o : Operation) (limit : Nat) (outcome : Outcome) (calls : Nat) (later : Store) :
    Prop where
  few : calls ≤ 7
  counted : ((Demand.operation o).task none).body.trial s.control s.clock none s.committed s.log =
    .ok ⟨.outcome outcome, later.committed, calls, later.log⟩
  left : later = s.leftAt later.committed (s.now + calls * s.control.latency) later.log
  unlimited : ∀ horizon, s.now + calls * s.control.latency ≤ horizon →
    o.performed none horizon s = (some [(.outcome outcome, s.now + calls * s.control.latency)], later)
  inTime : calls * s.control.latency ≤ limit → ∀ horizon, s.now + calls * s.control.latency ≤ horizon →
    o.performed (some limit) horizon s = (some [(.outcome outcome, s.now + calls * s.control.latency)], later)
  late : limit < calls * s.control.latency → ∀ horizon, s.now + limit ≤ horizon → ∃ log,
    o.performed (some limit) horizon s =
      (some [(.outcome (o.failed (.timeout o.name)), s.now + limit)], s.leftAt s.committed (s.now + limit) log)
  -- Only at a deadline is anything told that may be tried again.
  lasting : ∀ e, outcome.error? = some e → e.isRetryable = false ∧ later.committed = s.committed

-- An operation that is tried again, with other faults and limits, as long as its error allows that.
def Ledger.Operation.insisted (o : Operation) : List (Control × Nat) → Store → Option Outcome × Store
  | [], s => (none, s)
  | (control, limit) :: more, s =>
    match o.performed (some limit) (s.now + limit) { s with control } with
    | (some [(.outcome told, _)], after) =>
      if told.error?.any LedgerError.isRetryable then o.insisted more after else (some told, after)
    | (_, after) => (none, after)

-- Nothing has happened to the books, or what happens to them when the operation is carried out without a deadline.
inductive OnceAtMost (book : Book) (o : Operation) : Option Outcome × Store → Prop
  | never (after : Store) (kept : after.committed = book) : OnceAtMost book o (none, after)
  | once (s : Store) (told : Outcome) (time : Nat) (after : Store) (same : s.committed = book)
      (free : s.owner = none ∧ s.queue = [])
      (single : o.performed none time s = (some [(.outcome told, time)], after)) : OnceAtMost book o (some told, after)

structure Punctual (s : Store) (o : Operation) : Prop where
  transparent : ∃ outcome calls later, ∀ limit, Transparent s o limit outcome calls later
  repeated : ∀ attempts, OnceAtMost s.committed o (o.insisted attempts s)

def Task.GivesUp {α : Type} (t : Task α) (limit : Option Nat) (a : α) : Prop :=
  t.deadline.map Deadline.after = limit ∧ ∀ d, t.deadline = some d → d.instead.Closes a

theorem bounded_gives_up {α : Type} (limit : Option Nat) (operation : String) (p : Program (Result α)) :
    (Ledger.bounded limit operation p).GivesUp limit (.error (.timeout operation)) := by
  refine ⟨?_, ?_⟩
  · cases limit <;> rfl
  · intro d limited
    obtain ⟨_, _, rfl⟩ := Option.map_eq_some_iff.mp limited
    exact .log _ _ _ (.done _)

theorem gives_up_bind {α β : Type} (t : Task α) (f : α → Program β) (g : α → β) (closing : ∀ a, (f a).Closes (g a))
    (limit : Option Nat) (a : α) (givesUp : t.GivesUp limit a) : (t.bind f).GivesUp limit (g a) := by
  obtain ⟨after, instead⟩ := givesUp
  refine ⟨?_, ?_⟩
  · rw [← after, Task.bind]
    cases t.deadline <;> rfl
  · intro d limited
    obtain ⟨own, given, rfl⟩ := Option.map_eq_some_iff.mp limited
    exact Program.closes_bind _ f a (g a) (instead own given) (closing a)

theorem operation_tried (o : Operation) (s : Store) (x : Tried Outcome)
    (worked : (o.task none).body.trial s.control s.clock none s.committed s.log = .ok x) :
    x.calls ≤ 7 ∧ ∃ log, ((Demand.operation o).task none).body.trial s.control s.clock none s.committed s.log =
      .ok { x.map Answer.outcome with log } :=
  ⟨Program.trial_within s.control s.clock 7 _ (Ledger.operation_within none o) none s.committed s.log x worked,
    Program.trial_closing s.control s.clock (o.task none).body _ Answer.outcome (fun _ => .done _) none s.committed s.log x
      worked⟩

section Operations

variable (o : Operation) (write : o.isRead = false)

include write

theorem operation_gives_up (limit : Option Nat) (accepted : o.rejection? = none) :
    ((Demand.operation o).task limit).GivesUp limit (.outcome (o.failed (.timeout o.name))) := by
  obtain ⟨α, context, p, line, wrap, task, _, _, _, failed, _⟩ := Ledger.accepted_unit o write accepted
  have reports := gives_up_bind _ _ id (Ledger.reported_closes line) limit _
    (bounded_gives_up limit o.name (Ledger.inUnit context p))
  have told := gives_up_bind _ _ wrap (fun _ => .done _) limit _ reports
  rw [Demand.task, task, ← failed]
  exact gives_up_bind _ _ Answer.outcome (fun _ => .done _) limit _ told

variable (s : Store) (limit : Option Nat) (x : Tried Answer)
  (tried : ((Demand.operation o).task none).body.trial s.control s.clock none s.committed s.log = .ok x)

include tried

theorem operation_deadline :
    (∀ d, ((Demand.operation o).task limit).deadline = some d →
      limit = some d.after ∧ d.instead.Closes (.outcome (o.failed (.timeout o.name)))) ∧
    ∀ n, limit = some n → (∃ d, ((Demand.operation o).task limit).deadline = some d ∧ d.after = n) ∨ x.calls = 0 := by
  cases rejected : o.rejection? with
  | none =>
      obtain ⟨after, instead⟩ := operation_gives_up o write limit rejected
      refine ⟨?_, ?_⟩
      · intro d limited
        rw [limited] at after
        exact ⟨after.symm, instead d limited⟩
      · rintro n rfl
        exact .inl (Option.map_eq_some_iff.mp after)
  | some e =>
      rw [Demand.task, Ledger.rejected_task none o e rejected] at tried
      rw [Demand.task, Ledger.rejected_task limit o e rejected]
      cases tried
      refine ⟨?_, fun _ _ => .inr rfl⟩
      intro d limited
      cases limited

theorem operation_comes_out (idle : s.owner = none ∧ s.queue = []) (few : x.calls ≤ 7) (horizon : Nat)
    (waits : s.now + x.calls * s.control.latency ≤ horizon ∨ ∃ n, limit = some n ∧ s.now + n ≤ horizon) :
    ((∀ n, limit = some n → x.calls * s.control.latency ≤ n) ∧
      o.performed limit horizon s = (some [(x.answer, s.now + x.calls * s.control.latency)],
        s.leftAt x.book (s.now + x.calls * s.control.latency) x.log)) ∨
    ∃ n log, limit = some n ∧ n < x.calls * s.control.latency ∧
      o.performed limit horizon s = (some [(.outcome (o.failed (.timeout o.name)), s.now + n)],
        s.leftAt s.committed (s.now + n) log) := by
  obtain ⟨given, kept⟩ := operation_deadline o write s limit x tried
  have last : ((Demand.operation o).task limit).body.CommitsLast :=
    Program.commits_last_closing _ _ Answer.outcome (fun _ => .done _) (Ledger.operation_commits_last o write limit)
  have ends : s.now + x.calls * s.control.latency ≤ horizon ∨
      ∃ d, ((Demand.operation o).task limit).deadline = some d ∧ s.now + d.after ≤ horizon := by
    rcases waits with through | ⟨n, set, cut⟩
    · exact .inl through
    · rcases kept n set with ⟨d, limited, rfl⟩ | none
      · exact .inr ⟨d, limited, cut⟩
      · rw [none]
        exact .inl (by omega)
  rw [← demand_body (.operation o) limit] at tried
  have comes := lone_trial Answer.refused horizon ((Demand.operation o).task limit) s x idle
    (fun d limited => ⟨_, (given d limited).2⟩) last tried (by omega) ends
  rw [Operation.performed]
  generalize System.run Answer.refused horizon s [.task ((Demand.operation o).task limit)] = ran at comes
  cases comes with
  | through inTime =>
      refine .inl ⟨?_, rfl⟩
      intro n set
      rcases kept n set with ⟨d, limited, rfl⟩ | none
      · exact inTime d limited
      · rw [none, Nat.zero_mul]
        exact Nat.zero_le n
  | cut d a log limited closes late =>
      obtain ⟨set, instead⟩ := given d limited
      exact .inr ⟨d.after, log, set, late, by rw [Program.closes_unique _ a _ closes instead]⟩

end Operations

section Repetition

variable (o : Operation) (write : o.isRead = false)

include write

theorem operation_transparent (s : Store) (idle : s.owner = none ∧ s.queue = []) :
    ∃ outcome calls later, ∀ limit, Transparent s o limit outcome calls later := by
  obtain ⟨x, worked, settles⟩ := Ledger.operation_settles o write s.control s.clock s.committed s.log
  obtain ⟨few, log, tried⟩ := operation_tried o s x worked
  refine ⟨x.answer, x.calls, s.leftAt x.book (s.now + x.calls * s.control.latency) log, fun limit => ?_⟩
  refine ⟨few, tried, rfl, ?_, ?_, ?_, fun e failed => settles e failed⟩
  · intro horizon through
    rcases operation_comes_out o write s none _ tried idle few horizon (.inl through) with ⟨_, ran⟩ | ⟨n, _, set, _⟩
    · exact ran
    · cases set
  · intro inTime horizon through
    rcases operation_comes_out o write s (some limit) _ tried idle few horizon (.inl through) with
      ⟨_, ran⟩ | ⟨n, _, set, late, _⟩
    · exact ran
    · cases set
      exact absurd inTime (Nat.not_le_of_lt late)
  · intro late horizon cut
    rcases operation_comes_out o write s (some limit) _ tried idle few horizon (.inr ⟨limit, rfl, cut⟩) with
      ⟨inTime, _⟩ | ⟨n, own, set, _, ran⟩
    · exact absurd (inTime limit rfl) (Nat.not_le_of_lt late)
    · cases set
      exact ⟨own, ran⟩

theorem operation_again (s : Store) (idle : s.owner = none ∧ s.queue = []) (limit : Nat) :
    ∃ told time after, o.performed (some limit) (s.now + limit) s = (some [(.outcome told, time)], after) ∧
      (after.owner = none ∧ after.queue = []) ∧
        ((told.error?.any LedgerError.isRetryable = true ∧ after.committed = s.committed) ∨
          (told.error?.any LedgerError.isRetryable = false ∧
            o.performed none time s = (some [(.outcome told, time)], after))) := by
  obtain ⟨outcome, calls, later, transparent⟩ := operation_transparent o write s idle
  have t := transparent limit
  by_cases inTime : calls * s.control.latency ≤ limit
  · refine ⟨outcome, _, later, t.inTime inTime _ (Nat.add_le_add_left inTime _), ?_, .inr ⟨?_, ?_⟩⟩
    · rw [t.left]
      exact idle
    · cases failed : outcome.error? with
      | none => rfl
      | some e => exact (t.lasting e failed).1
    · exact t.unlimited _ (Nat.le_refl _)
  · obtain ⟨log, ran⟩ := t.late (Nat.lt_of_not_le inTime) _ (Nat.le_refl _)
    refine ⟨_, _, _, ran, idle, .inl ⟨?_, rfl⟩⟩
    cases o <;> rfl

theorem insisted_once (attempts : List (Control × Nat)) (s : Store) (idle : s.owner = none ∧ s.queue = []) :
    OnceAtMost s.committed o (o.insisted attempts s) := by
  induction attempts generalizing s with
  | nil => exact .never s rfl
  | cons attempt more ih =>
      obtain ⟨control, limit⟩ := attempt
      obtain ⟨told, time, after, ran, free, again⟩ := operation_again o write { s with control } idle limit
      simp only [Operation.insisted, ran]
      rcases again with ⟨retryable, kept⟩ | ⟨lasting, single⟩
      · rw [if_pos retryable, ← kept]
        exact ih after free
      · rw [if_neg (by simp [lasting])]
        exact .once { s with control } told time after rfl idle single

end Repetition

/-- Deadlines are transparent: with any books, faults, latency, time and log of a store that nobody holds, and for every
operation that changes accounts. -/
theorem deadlines_are_transparent (store : Store) :
    let s := { store with owner := none, queue := [] }
    (∀ input, Punctual s (.createAccount input)) ∧ ∀ input, Punctual s (.createTransfer input) := by
  refine ⟨fun input => ⟨?_, ?_⟩, fun input => ⟨?_, ?_⟩⟩
  · exact operation_transparent _ rfl _ ⟨rfl, rfl⟩
  · exact fun attempts => insisted_once _ rfl attempts _ ⟨rfl, rfl⟩
  · exact operation_transparent _ rfl _ ⟨rfl, rfl⟩
  · exact fun attempts => insisted_once _ rfl attempts _ ⟨rfl, rfl⟩

end DoubleEntry
