import DoubleEntry.Proofs.Program.Length
import DoubleEntry.Proofs.Store.Turn

/-!
The line for the lock: who has it comes first, and the others wait in the order in which they came. A process is in it
exactly while its unit of work is open or while it waits to go on, and it leaves it when it comes to its end, whatever
has failed until then.
-/

set_option autoImplicit false

namespace DoubleEntry

open Time (Stamp)

variable {α : Type}

-- The lock and the queue of a store, as one line.
structure Store.Lined (s : Store) (line : List Nat) : Prop where
  owner : s.owner = line.head?.map Owner.process
  queue : s.queue = line.tail
  once : line.Nodup

-- What a process may do to the line: the others keep their places in it, and the first of them stays first.
structure Aside (id : Nat) (line later : List Nat) : Prop where
  members : ∀ other, other ≠ id → (other ∈ later ↔ other ∈ line)
  first : ∀ other, other ≠ id → line.head? = some other → later.head? = some other

theorem aside_refl (id : Nat) (line : List Nat) : Aside id line line := ⟨fun _ _ => .rfl, fun _ _ same => same⟩

theorem aside_trans (id : Nat) (line mid later : List Nat) (first : Aside id line mid) (second : Aside id mid later) :
    Aside id line later :=
  ⟨fun other different => (second.members other different).trans (first.members other different),
    fun other different ahead => second.first other different (first.first other different ahead)⟩

section Lined

variable (s later : Store) (id : Nat) (line rest : List Nat) (lined : s.Lined line)

theorem lined_congr (owner : later.owner = s.owner) (queue : later.queue = s.queue) (lined : s.Lined line) :
    later.Lined line :=
  ⟨owner.trans lined.owner, queue.trans lined.queue, lined.once⟩

include lined

theorem lined_free : s.owner = none ↔ line = [] := by
  rw [lined.owner, Option.map_eq_none_iff, List.head?_eq_none_iff]

theorem lined_own : s.owner = some (.process id) ↔ line.head? = some id := by
  rw [lined.owner]
  cases line.head? with
  | none => simp
  | some first => simp

theorem lined_take (admits : s.Admits id) :
    ∃ rest, ({ s with owner := some (.process id) } : Store).Lined (id :: rest) ∧ Aside id line (id :: rest) := by
  rcases admits with free | own
  · have empty := (lined_free s line lined).mp free
    subst empty
    refine ⟨[], ⟨rfl, lined.queue, List.pairwise_singleton _ id⟩, ?_, ?_⟩
    · intro other different
      simp [different]
    · intro other _ ahead
      cases ahead
  · have first := (lined_own s id line lined).mp own
    obtain ⟨rest, rfl⟩ := List.head?_eq_some_iff.mp first
    exact ⟨rest, ⟨rfl, lined.queue, lined.once⟩, aside_refl id _⟩

theorem lined_release (first : line = id :: rest) : s.release.Lined rest ∧ id ∉ rest ∧ Aside id line rest := by
  subst first
  obtain ⟨absent, once⟩ := List.nodup_cons.mp lined.once
  refine ⟨?_, absent, ?_, ?_⟩
  · have waiting : s.queue = rest := lined.queue
    cases rest with
    | nil | cons next others =>
        simp only [Store.release, waiting]
        exact ⟨rfl, rfl, once⟩
  · intro other different
    simp [different]
  · intro other different ahead
    cases ahead
    exact absurd rfl different

theorem lined_enqueue (taken : line ≠ []) (absent : id ∉ line) :
    (s.enqueue id .queued).Lined (line ++ [id]) ∧ Aside id line (line ++ [id]) := by
  obtain ⟨head, tail, rfl⟩ := List.exists_cons_of_ne_nil taken
  have waiting : s.queue = tail := lined.queue
  have outside : ¬ s.queue.contains id = true := by
    rw [waiting, List.contains_iff_mem]
    exact fun among => absent (List.mem_cons_of_mem _ among)
  have enqueued : s.enqueue id .queued = { s with queue := s.queue ++ [id] } := by
    rw [Store.enqueue, if_neg outside]
  rw [enqueued]
  refine ⟨⟨lined.owner, by rw [waiting]; rfl, ?_⟩, ?_, fun other _ ahead => ahead⟩
  · exact List.nodup_append.mpr ⟨lined.once, List.pairwise_singleton _ id,
      fun a among b single same => absent (by rwa [← List.mem_singleton.mp single, ← same])⟩
  · intro other different
    simp [different]

theorem lined_withdraw : ∃ after, (s.withdraw id).Lined after ∧ id ∉ after ∧ Aside id line after := by
  by_cases own : s.owner = some (.process id)
  · have first := (lined_own s id line lined).mp own
    obtain ⟨rest, rfl⟩ := List.head?_eq_some_iff.mp first
    rw [Store.withdraw, if_pos (by simp [Store.holds, own])]
    exact ⟨rest, lined_release s id (id :: rest) rest lined rfl⟩
  · have notFirst := mt (lined_own s id line lined).mpr own
    rw [Store.withdraw, if_neg (by simpa [Store.holds] using own)]
    cases line with
    | nil => exact ⟨[], ⟨lined.owner, by rw [lined.queue]; rfl, lined.once⟩, by simp, aside_refl id []⟩
    | cons head rest =>
        have different : head ≠ id := fun same => notFirst (congrArg some same)
        have waiting : s.queue = rest := lined.queue
        have left : (head :: rest).filter (· != id) = head :: rest.filter (· != id) :=
          List.filter_cons_of_pos (by simpa using different)
        refine ⟨(head :: rest).filter (· != id), ⟨?_, ?_, lined.once.filter _⟩, by simp, ?_, ?_⟩
        · rw [left]
          exact lined.owner
        · rw [left, waiting]
          rfl
        · intro other apart
          simp [apart]
        · intro other _ ahead
          rw [left]
          exact ahead

end Lined

theorem approach_waits (s : Store) (id : Nat) (c : Call) (wait later : Wait)
    (waits : s.approach id c wait = .wait later) :
    (∃ wake, later = .asleep wake) ∧ wait ≠ .queued ∨
      later = .queued ∧ wait = .queued ∧ s.owner ≠ some (.process id) ∨
        later = .queued ∧ wait ≠ .queued ∧ c.needsLock = true ∧ s.owner ≠ none := by
  have entering : s.enterWork id c = .wait later → later = .queued ∧ c.needsLock = true ∧ s.owner ≠ none := by
    intro refused
    rw [Store.enterWork] at refused
    by_cases free : (!c.needsLock || s.owner.isNone || s.holds (.process id)) = true
    · rw [if_pos free] at refused
      cases refused
    · rw [if_neg free] at refused
      cases refused
      simp only [Bool.or_eq_true, not_or, Bool.not_eq_true', Bool.not_eq_false, Option.isNone_iff_eq_none] at free
      exact ⟨rfl, free.1.1, free.1.2⟩
  cases wait with
  | fresh =>
      simp only [Store.approach] at waits
      split at waits
      · cases waits
      · split at waits
        · obtain ⟨queued, needs, taken⟩ := entering waits
          exact .inr (.inr ⟨queued, by decide, needs, taken⟩)
        · cases waits
          exact .inl ⟨⟨_, rfl⟩, by decide⟩
  | asleep wake =>
      simp only [Store.approach] at waits
      split at waits
      · obtain ⟨queued, needs, taken⟩ := entering waits
        exact .inr (.inr ⟨queued, Wait.noConfusion, needs, taken⟩)
      · cases waits
        exact .inl ⟨⟨_, rfl⟩, Wait.noConfusion⟩
  | queued =>
      simp only [Store.approach] at waits
      by_cases own : s.holds (.process id) = true
      · rw [if_pos own] at waits
        cases waits
      · rw [if_neg own] at waits
        cases waits
        exact .inr (.inl ⟨rfl, rfl, by simpa [Store.holds] using own⟩)

theorem enter_no_failure (s : Store) (id : Nat) (c : Call) (e : StoreError) : s.enterWork id c ≠ .failed e := by
  rw [Store.enterWork]
  split <;> exact Admission.noConfusion

theorem approach_fails (s : Store) (id : Nat) (c : Call) (wait : Wait) (e : StoreError)
    (fails : s.approach id c wait = .failed e) : wait = .fresh := by
  cases wait with
  | fresh => rfl
  | asleep wake =>
      simp only [Store.approach] at fails
      split at fails
      · exact absurd fails (enter_no_failure s id c e)
      · cases fails
  | queued =>
      simp only [Store.approach] at fails
      split at fails <;> cases fails

-- How a program goes on that has, or has not, a unit of work open.
def Program.Proper (p : Program α) : Option Book → Prop
  | none => p.Orderly fun _ => True
  | some _ => ∃ read, p.InUnit (fun _ => True) read

-- Where a process stands in the line, by what it waits for and by its unit of work.
inductive Place (id : Nat) (line : List Nat) : Wait → Option Book → Prop
  | queued (among : id ∈ line) : Place id line .queued none
  | outside (wait : Wait) (notQueued : wait ≠ .queued) (absent : id ∉ line) : Place id line wait none
  | inside (wait : Wait) (notQueued : wait ≠ .queued) (b : Book) (first : line.head? = some id) :
      Place id line wait (some b)

theorem place_aside (id other : Nat) (line later : List Nat) (wait : Wait) (unit : Option Book) (different : other ≠ id)
    (aside : Aside id line later) (place : Place other line wait unit) : Place other later wait unit := by
  cases place with
  | queued among => exact .queued ((aside.members other different).mpr among)
  | outside _ notQueued absent => exact .outside wait notQueued (mt (aside.members other different).mp absent)
  | inside _ notQueued b first => exact .inside wait notQueued b (aside.first other different first)

-- Where a run stops of a program that has at most `n` calls to make.
inductive Park (id n : Nat) (line : List Nat) : Stop α → Prop
  | finished (a : α) (absent : id ∉ line) : Park id n line (.finished a none)
  | crashed (e : ArithmeticError) : Park id n line (.crashed e)
  | paused (c : Call) (next : Except StoreError c.Reply → Program α) (wait : Wait) (unit : Option Book)
      (started : wait ≠ .fresh) (within : (Program.call c next).Within n) (proper : (Program.call c next).Proper unit)
      (place : Place id line wait unit) : Park id n line (.paused (.call c next) wait unit)

-- A run, and what it leaves of the line. What fails, and when, is not for a run to change.
structure Parks (id n : Nat) (line : List Nat) (k : Control) (x : Stop α × Store) : Prop where
  control : x.2.control = k
  park : ∃ later, x.2.Lined later ∧ Aside id line later ∧ Park id n later x.1

theorem parks_after (id n m : Nat) (line mid : List Nat) (k : Control) (x : Stop α × Store) (fewer : n ≤ m)
    (aside : Aside id line mid) (parks : Parks id n mid k x) : Parks id m line k x := by
  obtain ⟨later, lined, further, park⟩ := parks.park
  refine ⟨parks.control, later, lined, aside_trans _ _ _ _ aside further, ?_⟩
  generalize x.1 = stop at park
  cases park with
  | finished a absent => exact .finished a absent
  | crashed e => exact .crashed e
  | paused c next wait unit started within proper place =>
      exact .paused c next wait unit started (Program.within_mono n m _ fewer within) proper place

theorem proper_locks (c : Call) (next : Except StoreError c.Reply → Program α) (unit : Option Book)
    (proper : (Program.call c next).Proper unit) (needs : c.needsLock = true) : unit = none := by
  cases unit with
  | none => rfl
  | some b =>
      obtain ⟨read, inside⟩ := proper
      cases inside with
      | work _ _ _ isWork _ _ =>
          cases c with
          | getAccount id | listEntries id | begin | commit | rollback => cases isWork
          | getAccounts ids | createAccount account | debit id amount now | credit id amount now | append e =>
              cases needs
      | commit _ _ _ _ _ => cases needs
      | rollback _ _ _ _ => cases needs

section Runs

variable (id n : Nat) (line : List Nat) (c : Call) (next : Except StoreError c.Reply → Program α) (wait : Wait)
  (unit : Option Book) (s : Store) (lined : s.Lined line) (place : Place id line wait unit)
  (proper : (Program.call c next).Proper unit)

theorem place_first (b : Book) (place : Place id line wait (some b)) : ∃ rest, line = id :: rest := by
  cases place with
  | inside _ _ _ first => exact List.head?_eq_some_iff.mp first

-- A look-up takes the lock and gives it up at once.
include lined in
theorem lined_read (admits : s.Admits id) :
    ∃ later, (Store.release { s with owner := some (.process id) }).Lined later ∧ id ∉ later ∧ Aside id line later := by
  obtain ⟨rest, taken, aside⟩ := lined_take s id line lined admits
  obtain ⟨released, absent, further⟩ := lined_release _ id _ rest taken rfl
  exact ⟨rest, released, absent, aside_trans _ _ _ _ aside further⟩

-- What a run does after a call, whatever the reply is.
def GoesOn : Prop :=
  ∀ reply after (mid : Store) later, mid.Lined later → mid.control = s.control → Aside id line later →
    Place id later .fresh after → (next reply).Proper after →
      Parks id n line s.control (Store.run id (next reply) .fresh after mid)

-- A failing call that ends a unit of work gives up the lock all the same.
include lined place proper in
theorem failed_parks (e : StoreError) (failure : s.control.failure? c = some e) (fresh : wait = .fresh)
    (goesOn : GoesOn id n line c next s) :
    Parks id n line s.control
      (Store.run id (next (.error e)) .fresh (s.failed c unit).1 (s.failed c unit).2) := by
  obtain ⟨notRead, _⟩ := injected_failure s.control c e failure
  subst fresh
  cases unit with
  | none =>
      cases proper with
      | closes _ a closes => cases closes
      | begin _ _ failing =>
          obtain ⟨a, _, closes⟩ := failing e
          exact goesOn _ _ s _ lined rfl (aside_refl id line) place (.closes _ a closes)
      | read _ _ isRead _ =>
          rw [notRead] at isRead
          cases isRead
      | probe account _ rest _ _ _ => cases notRead
  | some b =>
      obtain ⟨rest, rfl⟩ := place_first id line .fresh b place
      obtain ⟨released, absent, aside⟩ := lined_release s id _ rest lined rfl
      have outside : Place id rest .fresh none := .outside .fresh (by decide) absent
      obtain ⟨read, inside⟩ := proper
      cases inside with
      | work _ _ _ isWork inside _ =>
          have going : s.failed c (some b) = (some b, s) := by
            rw [Store.failed, (work_neither_reads_nor_ends c isWork).2]
            rfl
          rw [going]
          exact goesOn _ _ s _ lined rfl (aside_refl id _) place ⟨read, inside _⟩
      | commit _ _ _ _ failing =>
          obtain ⟨a, _, closes⟩ := failing e
          exact goesOn _ _ _ _ released (Store.release_control _) aside outside (.closes _ a closes)
      | rollback _ _ a closes =>
          exact goesOn _ _ _ _ released (Store.release_control _) aside outside (.closes _ a (closes _))

include lined place proper in
theorem performed_parks (admits : c.needsLock = true → s.Admits id)
    (goesOn : GoesOn id n line c next s) :
    match s.perform id unit c with
    | .ok (reply, after, later) => Parks id n line s.control (Store.run id (next reply) .fresh after later)
    | .error e => Parks id n line s.control ((.crashed e, s) : Stop α × Store) := by
  have outside : ∀ later, id ∉ later → Place id later .fresh none := fun later => .outside .fresh (by decide)
  cases unit with
  | none =>
      cases proper with
      | closes _ a closes => cases closes
      | begin _ inside _ =>
          -- From here on the process is the first in the line, up to the end of its unit.
          obtain ⟨rest, taken, aside⟩ := lined_take s id line lined (admits rfl)
          exact goesOn _ _ _ _ taken rfl aside (.inside .fresh (by decide) _ rfl) ⟨false, inside⟩
      | read _ _ isRead closes =>
          cases c with
          | getAccount account | listEntries account =>
              obtain ⟨later, released, absent, aside⟩ := lined_read id line s lined (admits rfl)
              obtain ⟨a, closes⟩ := closes (.ok _)
              exact goesOn _ _ _ _ released (Store.release_control _) aside (outside later absent) (.closes _ a closes)
          | begin | getAccounts ids | createAccount account | debit account amount now | credit account amount now
          | append e | commit | rollback => cases isRead
      | probe account _ rest found orderly missing =>
          obtain ⟨later, released, absent, aside⟩ := lined_read id line s lined (admits rfl)
          refine goesOn _ _ _ _ released (Store.release_control _) aside (outside later absent) ?_
          cases s.committed.account? account with
          | none =>
              obtain ⟨a, closes⟩ := missing
              exact .closes _ a closes
          | some known =>
              rw [found known]
              exact orderly
  | some b =>
      obtain ⟨rest, rfl⟩ := place_first id line wait b place
      obtain ⟨read, inside⟩ := proper
      cases inside with
      | work _ _ _ isWork inside _ =>
          rw [Store.perform_work s id (some b) c isWork, Option.getD_some]
          cases b.answer c with
          | error e => exact ⟨rfl, _, lined, aside_refl id _, .crashed e⟩
          | ok done =>
              exact goesOn _ _ s _ lined rfl (aside_refl id _) (.inside .fresh (by decide) _ rfl) ⟨read, inside _⟩
      | commit _ _ a closes _ =>
          obtain ⟨released, absent, aside⟩ :=
            lined_release { s with committed := b } id _ rest (lined_congr s _ _ rfl rfl lined) rfl
          exact goesOn _ _ _ _ released (Store.release_control _) aside (outside rest absent) (.closes _ a closes)
      | rollback _ _ a closes =>
          obtain ⟨released, absent, aside⟩ := lined_release s id _ rest lined rfl
          exact goesOn _ _ _ _ released (Store.release_control _) aside (outside rest absent) (.closes _ a (closes _))

include lined place proper in
theorem waiting_parks (later : Wait) (within : (Program.call c next).Within n)
    (waits : s.approach id c wait = .wait later) :
    Parks id n line s.control (.paused (.call c next) later unit, s.enqueue id later) := by
  rcases approach_waits s id c wait later waits with
    ⟨⟨wake, rfl⟩, notQueued⟩ | ⟨rfl, rfl, notFirst⟩ | ⟨rfl, notQueued, needs, taken⟩
  · refine ⟨rfl, line, lined, aside_refl id line, .paused c next _ unit Wait.noConfusion within proper ?_⟩
    cases place with
    | queued _ => exact absurd rfl notQueued
    | outside _ _ absent => exact .outside _ Wait.noConfusion absent
    | inside _ _ b first => exact .inside _ Wait.noConfusion b first
  · cases place with
    | outside _ notQueued _ => exact absurd rfl notQueued
    | inside _ notQueued _ _ => exact absurd rfl notQueued
    | queued among =>
        have waiting : s.queue.contains id = true := by
          rw [List.contains_iff_mem, lined.queue]
          cases line with
          | nil => cases among
          | cons head rest =>
              rcases List.mem_cons.mp among with rfl | behind
              · exact absurd ((lined_own s id _ lined).mpr rfl) notFirst
              · exact behind
        simp only [Store.enqueue, if_pos waiting]
        exact ⟨rfl, line, lined, aside_refl id line,
          .paused c next _ none Wait.noConfusion within proper (.queued among)⟩
  · obtain rfl := proper_locks c next unit proper needs
    cases place with
    | queued _ => exact absurd rfl notQueued
    | outside _ _ absent =>
        obtain ⟨enqueued, aside⟩ := lined_enqueue s id line lined (mt (lined_free s line lined).mpr taken) absent
        refine ⟨?_, _, enqueued, aside, .paused c next _ none Wait.noConfusion within proper (.queued (by simp))⟩
        simp only [Store.enqueue]
        split <;> rfl

include lined place proper in
theorem call_parks (within : ∀ reply, (next reply).Within n) (goesOn : GoesOn id n line c next s) :
    Parks id (n + 1) line s.control (Store.run id (.call c next) wait unit s) ∧
      (s.approach id c wait = .go →
        Parks id n line s.control (Store.run id (.call c next) wait unit s)) := by
  rcases Store.approach_cases s id c wait with ⟨e, fails, failure⟩ | ⟨going, admits⟩ | ⟨later, waits⟩
  · have fresh := approach_fails s id c wait e fails
    have fewer := failed_parks id n line c next wait unit s lined place proper e failure fresh goesOn
    rw [Store.run, fails]
    exact ⟨parks_after id n _ line line _ _ (Nat.le_succ n) (aside_refl id line) fewer, fun going => by cases going⟩
  · have performed := performed_parks id n line c next wait unit s lined place proper admits goesOn
    have fewer : Parks id n line s.control (Store.run id (.call c next) wait unit s) := by
      rw [Store.run, going]
      cases effect : s.perform id unit c with
      | error e | ok done =>
          rw [effect] at performed
          exact performed
    exact ⟨parks_after id n _ line line _ _ (Nat.le_succ n) (aside_refl id line) fewer, fun _ => fewer⟩
  · have waiting := waiting_parks id (n + 1) line c next wait unit s lined place proper later
      (.call n c next within) waits
    rw [Store.run, waits]
    exact ⟨waiting, fun going => by cases going⟩

end Runs

theorem proper_log (line : LogLine) (rest : Program α) (unit : Option Book)
    (proper : (Program.log line rest).Proper unit) :
    rest.Proper unit := by
  cases unit with
  | none => exact Program.orderly_log _ line rest proper
  | some b =>
      obtain ⟨read, inside⟩ := proper
      exact ⟨read, Program.in_unit_log _ read line rest inside⟩

theorem proper_clock (next : Stamp → Program α) (unit : Option Book) (proper : (Program.clock next).Proper unit)
    (now : Stamp) : (next now).Proper unit := by
  cases unit with
  | none =>
      cases proper with
      | closes _ a closes => cases closes
  | some b =>
      obtain ⟨read, inside⟩ := proper
      cases inside with
      | clock _ inside => exact ⟨true, inside now⟩

theorem run_parks (id n : Nat) (p : Program α) (within : p.Within n) (line : List Nat) (unit : Option Book) (s : Store)
    (lined : s.Lined line) (place : Place id line .fresh unit) (proper : p.Proper unit) :
    Parks id n line s.control (Store.run id p .fresh unit s) := by
  induction within generalizing line unit s with
  | done n a =>
      cases place with
      | outside _ _ absent => exact ⟨rfl, line, lined, aside_refl id line, .finished a absent⟩
      | inside _ _ b _ =>
          obtain ⟨_, impossible⟩ := proper
          cases impossible
  | log n text rest _ ih =>
      exact ih line unit (s.logLine text) (lined_congr s _ line rfl rfl lined) place
        (proper_log text rest unit proper)
  | clock n next _ ih => exact ih s.clock line unit s lined place (proper_clock next unit proper s.clock)
  | call n c next within ih =>
      refine (call_parks id n line c next .fresh unit s lined place proper within ?_).1
      intro reply after mid later linedMid control aside placeMid properMid
      rw [← control]
      exact parks_after id n n line later _ _ (Nat.le_refl n) aside (ih reply later after mid linedMid placeMid properMid)

theorem resumed_parks (id n : Nat) (c : Call) (next : Except StoreError c.Reply → Program α)
    (within : ∀ reply, (next reply).Within n) (line : List Nat) (wait : Wait) (unit : Option Book) (s : Store)
    (lined : s.Lined line) (place : Place id line wait unit) (proper : (Program.call c next).Proper unit) :
    Parks id (n + 1) line s.control (Store.run id (.call c next) wait unit s) ∧
      (s.approach id c wait = .go →
        Parks id n line s.control (Store.run id (.call c next) wait unit s)) := by
  refine call_parks id n line c next wait unit s lined place proper within ?_
  intro reply after mid later linedMid control aside placeMid properMid
  rw [← control]
  exact parks_after id n n line later _ _ (Nat.le_refl n) aside
    (run_parks id n _ (within reply) later after mid linedMid placeMid properMid)

end DoubleEntry
