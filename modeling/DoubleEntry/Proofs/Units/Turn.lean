import DoubleEntry.Proofs.Store.Turn
import DoubleEntry.Proofs.Units.CallEffect
import Mathlib.Logic.Function.Basic

/-!
One turn of one call, among others. The lock tells where the open unit of work is: on the shelf under its name, or in
the hands of the process that makes a call in it. A turn either answers the call by a effect, or leaves everything as it
is.
-/

set_option autoImplicit false

namespace DoubleEntry.Units

open Session (Answer callOnly)

abbrev Hands := Nat → Option (String × Book)

-- Where a unit of work can be, by who has the lock.
inductive Held (s : Store) (hands : Hands) : Prop
  | free (owner : s.owner = none) (units : s.openUnits = []) (empty : ∀ id, hands id = none)
  | process (id : Nat) (owner : s.owner = some (.process id)) (units : s.openUnits = [])
      (others : ∀ other, other ≠ id → hands other = none)
  | openUnit (name : String) (copy : Book) (owner : s.owner = some (.openUnit name))
      (units : s.openUnits = [(name, copy)]) (empty : ∀ id, hands id = none)

def opened (s : Store) (hands : Hands) : Option (String × Book) :=
  match s.owner with
  | none => none
  | some (.process id) => hands id
  | some (.openUnit _) => s.openUnits.head?

def stateOf (s : Store) (hands : Hands) : State := ⟨opened s hands, s.committed⟩

section Held

variable (s : Store) (hands : Hands) (held : Held s hands) (id : Nat)

theorem opened_congr (later : Store) (owner : later.owner = s.owner) (units : later.openUnits = s.openUnits) :
    opened later hands = opened s hands := by
  simp only [opened, owner, units]

theorem none_opened (admits : s.Admits id) (empty : hands id = none) : opened s hands = none := by
  rw [opened]
  rcases admits with free | own
  · rw [free]
  · rw [own]
    exact empty

theorem taken_held (name : String) (copy : Book) (taken : Store) (own : s.owner = some (.openUnit name))
    (units : s.openUnits = [(name, copy)]) (empty : ∀ id, hands id = none)
    (owner : taken.owner = some (.process id)) (left : taken.openUnits = []) (committed : taken.committed = s.committed) :
    Held taken (Function.update hands id (some (name, copy))) ∧
      stateOf taken (Function.update hands id (some (name, copy))) = stateOf s hands := by
  refine ⟨.process id owner left ?_, ?_⟩
  · intro other different
    rw [Function.update_of_ne different]
    exact empty other
  · simp only [stateOf, opened, owner, own, units, Function.update_self, List.head?_cons, committed]

include held

theorem held_congr (later : Store) (owner : later.owner = s.owner) (units : later.openUnits = s.openUnits) :
    Held later hands := by
  cases held with
  | free own none empty => exact .free (owner.trans own) (units.trans none) empty
  | process id own none others => exact .process id (owner.trans own) (units.trans none) others
  | openUnit name copy own one empty => exact .openUnit name copy (owner.trans own) (units.trans one) empty

theorem held_owner (unit : String × Book) (found : hands id = some unit) : s.owner = some (.process id) := by
  cases held with
  | free _ _ empty | openUnit _ _ _ _ empty =>
      rw [empty] at found
      cases found
  | process other owner _ others =>
      by_cases same : id = other
      · rw [same]
        exact owner
      · rw [others id same] at found
        cases found

theorem held_alone (admits : s.Admits id) : s.openUnits = [] ∧ ∀ other, other ≠ id → hands other = none := by
  cases held with
  | free owner units empty => exact ⟨units, fun other _ => empty other⟩
  | process holder owner units others =>
      rcases admits with free | own
      · rw [owner] at free
        cases free
      · rw [owner] at own
        cases own
        exact ⟨units, others⟩
  | openUnit name copy owner units empty =>
      rcases admits with free | own
      · rw [owner] at free
        cases free
      · rw [owner] at own
        cases own

theorem held_lookup (name : String) (copy : Book) (found : s.openUnits.lookup name = some copy) :
    s.owner = some (.openUnit name) ∧ s.openUnits = [(name, copy)] ∧ ∀ id, hands id = none := by
  cases held with
  | free _ units _ | process _ _ units _ =>
      rw [units] at found
      cases found
  | openUnit other book owner units empty =>
      rw [units] at found
      by_cases same : name = other
      · subst same
        rw [List.lookup_cons_self] at found
        cases found
        exact ⟨owner, units, empty⟩
      · rw [List.lookup_cons, beq_false_of_ne same] at found
        cases found

end Held

section Leaving

variable (s : Store) (hands : Hands) (id : Nat) (units : s.openUnits = [])
    (others : ∀ other, other ≠ id → hands other = none)

include others

theorem hands_empty (other : Nat) : Function.update hands id none other = none := by
  by_cases same : other = id
  · rw [same, Function.update_self]
  · rw [Function.update_of_ne same]
    exact others other same

include units

theorem release_held :
    Held s.release (Function.update hands id none) ∧ opened s.release (Function.update hands id none) = none := by
  have empty := hands_empty hands id others
  cases waiting : s.queue with
  | nil =>
      have released : s.release = { s with owner := none } := by simp only [Store.release, waiting]
      rw [released]
      exact ⟨.free rfl units empty, rfl⟩
  | cons next rest =>
      have released : s.release = { s with owner := some (.process next), queue := rest } := by
        simp only [Store.release, waiting]
      rw [released]
      exact ⟨.process next rfl units fun other _ => empty other, empty next⟩

theorem leave_held (name : String) (copy : Book) :
    Held (s.leaveUnit name copy) (Function.update hands id none) ∧
      opened (s.leaveUnit name copy) (Function.update hands id none) = some (name, copy) := by
  have shelf : (s.leaveUnit name copy).openUnits = [(name, copy)] := by rw [Store.leaveUnit, units]
  exact ⟨.openUnit name copy rfl shelf (hands_empty hands id others), rfl⟩

end Leaving

-- A process between its turns: it has not begun, it waits to make its call, or it is done.
inductive Seat : Act → Process Answer → Prop
  | waiting (a : Act) : Seat a (.waiting a.job)
  | read (c : Call) (isRead : c.isRead = true) (wait : Wait) :
      Seat (.read c isRead) (.running ⟨callOnly c, wait, none, none, none⟩)
  | begin (name : String) (wait : Wait) : Seat (.begin name) (.running ⟨callOnly .begin, wait, none, some name, none⟩)
  | call (name : String) (c : Call) (inside : (c.isWork || c.isEnd) = true) (wait : Wait) (copy : Book) :
      Seat (.call name c inside) (.running ⟨callOnly c, wait, some copy, some name, none⟩)
  | finished (a : Act) (answer : Answer) (time : Nat) : Seat a (.finished answer time)

def inHand : Process Answer → Option (String × Book)
  | .running r => r.book.map fun copy => (r.keep.getD "", copy)
  | _ => none

inductive Turned (a : Act) (id : Nat) (s : Store) (hands : Hands) : Process Answer × Store → Prop
  | goesOn (p : Process Answer) (later : Store) (unfinished : p.isFinished = false) (seat : Seat a p)
      (held : Held later (Function.update hands id (inHand p)))
      (same : stateOf later (Function.update hands id (inHand p)) = stateOf s hands) : Turned a id s hands (p, later)
  | answered (answer : Answer) (time : Nat) (later : Store) (held : Held later (Function.update hands id none))
      (effect : CallEffect a answer (stateOf s hands) (stateOf later (Function.update hands id none))) :
      Turned a id s hands (.finished answer time, later)

theorem turned_from (a : Act) (id : Nat) (s taken : Store) (hands : Hands) (unit : Option (String × Book))
    (x : Process Answer × Store) (same : stateOf taken (Function.update hands id unit) = stateOf s hands)
    (turned : Turned a id taken (Function.update hands id unit) x) : Turned a id s hands x := by
  cases turned with
  | goesOn p later unfinished seat heldLater kept =>
      rw [Function.update_idem] at heldLater kept
      exact .goesOn p later unfinished seat heldLater (kept.trans same)
  | answered answer time later heldLater effect =>
      rw [Function.update_idem] at heldLater effect
      rw [same] at effect
      exact .answered answer time later heldLater effect

theorem resume_only (id : Nat) (c : Call) (wait : Wait) (unit : Option Book) (keep : Option String) (s : Store) :
    Process.resume Answer.refused id ⟨callOnly c, wait, unit, keep, none⟩ s =
      match s.approach id c wait with
      | .failed e =>
        (.finished (.reply c (.error e)) (s.failed c unit).2.now,
          Process.close (s.failed c unit).2 keep (s.failed c unit).1)
      | .wait later => (.running ⟨callOnly c, later, unit, keep, none⟩, s.enqueue id later)
      | .go =>
        match s.perform id unit c with
        | .ok (reply, after, later) => (.finished (.reply c reply) later.now, Process.close later keep after)
        | .error e => (.finished (.refused e) s.now, s.withdraw id) := by
  simp only [Process.resume, callOnly, Store.run]
  cases s.approach id c wait with
  | failed e => rfl
  | wait later => rfl
  | go => cases s.perform id unit c <;> rfl

theorem enqueue_keeps (s : Store) (id : Nat) (wait : Wait) :
    (s.enqueue id wait).owner = s.owner ∧ (s.enqueue id wait).openUnits = s.openUnits ∧
      (s.enqueue id wait).committed = s.committed := by
  cases wait with
  | fresh | asleep wake => exact ⟨rfl, rfl, rfl⟩
  | queued =>
      rw [Store.enqueue]
      split <;> exact ⟨rfl, rfl, rfl⟩

section Turns

variable (id : Nat) (s : Store) (hands : Hands) (held : Held s hands)

include held

theorem wait_turned (a : Act) (p : Process Answer) (wait : Wait) (unfinished : p.isFinished = false) (seat : Seat a p)
    (hand : hands id = inHand p) : Turned a id s hands (p, s.enqueue id wait) := by
  obtain ⟨owner, units, committed⟩ := enqueue_keeps s id wait
  refine .goesOn p _ unfinished seat ?_ ?_
  · rw [← hand, Function.update_eq_self]
    exact held_congr s hands held _ owner units
  · rw [← hand, Function.update_eq_self, stateOf, stateOf, opened_congr s hands _ owner units, committed]

theorem look_turned (a : Act) (answer : Answer) (time : Nat) (admits : s.Admits id) (empty : hands id = none)
    (effect : CallEffect a answer ⟨none, s.committed⟩ ⟨none, s.committed⟩) :
    Turned a id s hands (.finished answer time, Store.release { s with owner := some (.process id) }) := by
  obtain ⟨units, others⟩ := held_alone s hands held id admits
  obtain ⟨released, nothing⟩ := release_held { s with owner := some (.process id) } hands id units others
  refine .answered answer time _ released ?_
  rw [stateOf, stateOf, none_opened s hands id admits empty, nothing, Store.release_committed]
  exact effect

theorem read_turned (c : Call) (isRead : c.isRead = true) (wait : Wait) (empty : hands id = none) :
    Turned (.read c isRead) id s hands
      (Process.resume Answer.refused id ⟨callOnly c, wait, none, none, none⟩ s) := by
  rw [resume_only]
  rcases Store.approach_cases s id c wait with ⟨e, fails, failure⟩ | ⟨going, admits⟩ | ⟨later, waits⟩
  · rw [(injected_failure s.control c e failure).1] at isRead
    cases isRead
  · rw [going]
    cases c with
    | getAccount account =>
        exact look_turned id s hands held _ _ _ (admits rfl) empty (.account account s.committed)
    | listEntries account =>
        exact look_turned id s hands held _ _ _ (admits rfl) empty (.entries account s.committed)
    | begin | getAccounts ids | createAccount account | debit account amount now | credit account amount now
    | append e | commit | rollback => cases isRead
  · rw [waits]
    exact wait_turned id s hands held _ _ later rfl (.read c isRead later) empty

theorem begin_turned (name : String) (wait : Wait) (empty : hands id = none) :
    Turned (.begin name) id s hands
      (Process.resume Answer.refused id ⟨callOnly .begin, wait, none, some name, none⟩ s) := by
  have kept : Function.update hands id none = hands := by rw [← empty, Function.update_eq_self]
  rw [resume_only]
  rcases Store.approach_cases s id .begin wait with ⟨e, fails, _⟩ | ⟨going, admits⟩ | ⟨later, waits⟩
  · rw [fails]
    refine .answered _ _ s (by rw [kept]; exact held) ?_
    rw [kept]
    exact .beginFailed name e _
  · have admitted := admits rfl
    obtain ⟨units, others⟩ := held_alone s hands held id admitted
    obtain ⟨left, unit⟩ := leave_held s hands id units others name s.committed
    rw [going]
    refine .answered _ s.now (s.leaveUnit name s.committed) left ?_
    rw [stateOf, stateOf, none_opened s hands id admitted empty, unit]
    exact .begun name s.committed
  · rw [waits]
    exact wait_turned id s hands held _ _ later rfl (.begin name later) empty

section Call

variable (name : String) (c : Call) (inside : (c.isWork || c.isEnd) = true) (copy : Book)
  (hand : hands id = some (name, copy))

include hand

theorem stays_turned (answer : Answer) (time : Nat) (after : Book)
    (effect : CallEffect (.call name c inside) answer ⟨some (name, copy), s.committed⟩ ⟨some (name, after), s.committed⟩) :
    Turned (.call name c inside) id s hands (.finished answer time, s.leaveUnit name after) := by
  have own := held_owner s hands held id _ hand
  obtain ⟨units, others⟩ := held_alone s hands held id (.inr own)
  obtain ⟨left, unit⟩ := leave_held s hands id units others name after
  refine .answered answer time _ left ?_
  have before : opened s hands = some (name, copy) := by simp only [opened, own, hand]
  rw [stateOf, stateOf, before, unit]
  exact effect

theorem ends_turned (answer : Answer) (time : Nat) (later : Store) (units : later.openUnits = s.openUnits)
    (effect : CallEffect (.call name c inside) answer ⟨some (name, copy), s.committed⟩ ⟨none, later.committed⟩) :
    Turned (.call name c inside) id s hands (.finished answer time, later.release) := by
  have own := held_owner s hands held id _ hand
  obtain ⟨none, others⟩ := held_alone s hands held id (.inr own)
  obtain ⟨released, nothing⟩ := release_held later hands id (units.trans none) others
  refine .answered answer time _ released ?_
  have before : opened s hands = some (name, copy) := by simp only [opened, own, hand]
  rw [stateOf, stateOf, before, nothing, Store.release_committed]
  exact effect

theorem work_turned (isWork : c.isWork = true) (wait : Wait) :
    Turned (.call name c inside) id s hands
      (Process.resume Answer.refused id ⟨callOnly c, wait, some copy, some name, none⟩ s) := by
  have own := held_owner s hands held id _ hand
  rw [resume_only]
  rcases Store.approach_cases s id c wait with ⟨e, fails, _⟩ | ⟨going, _⟩ | ⟨later, waits⟩
  · have kept : s.failed c (some copy) = (some copy, s) := by
      rw [Store.failed, (work_neither_reads_nor_ends c isWork).2]
      rfl
    rw [fails, kept]
    exact stays_turned id s hands held name c inside copy hand _ _ copy (.workFailed name c inside isWork e copy _)
  · simp only [going, Store.perform_work s id (some copy) c isWork, Option.getD_some]
    cases answered : copy.answer c with
    | ok result =>
        exact stays_turned id s hands held name c inside copy hand _ _ result.2
          (.worked name c inside isWork result.1 copy result.2 _ answered)
    | error e =>
        have withdrawn : s.withdraw id = s.release := if_pos (by simp [Store.holds, own])
        simp only [Except.map, withdrawn]
        exact ends_turned id s hands held name c inside copy hand _ _ s rfl
          (.panicked name c inside isWork e copy _ answered)
  · rw [waits]
    exact wait_turned id s hands held _ _ later rfl (.call name c inside later copy) hand

theorem end_turned (isEnd : c.isEnd = true) (wait : Wait) :
    Turned (.call name c inside) id s hands
      (Process.resume Answer.refused id ⟨callOnly c, wait, some copy, some name, none⟩ s) := by
  rw [resume_only]
  rcases Store.approach_cases s id c wait with ⟨e, fails, _⟩ | ⟨going, _⟩ | ⟨later, waits⟩
  · rw [fails]
    cases c with
    | commit =>
        exact ends_turned id s hands held name _ inside copy hand _ _ s rfl (.commitFailed name e copy _)
    | rollback =>
        exact ends_turned id s hands held name _ inside copy hand _ _ s rfl (.rolledBack name (.error e) copy _)
    | getAccount account | listEntries account | begin | getAccounts ids | createAccount account
    | debit account amount now | credit account amount now | append e => cases isEnd
  · rw [going]
    cases c with
    | commit =>
        exact ends_turned id s hands held name _ inside copy hand _ _ { s with committed := copy } rfl
          (.committed name copy _)
    | rollback =>
        exact ends_turned id s hands held name _ inside copy hand _ _ s rfl (.rolledBack name (.ok ()) copy _)
    | getAccount account | listEntries account | begin | getAccounts ids | createAccount account
    | debit account amount now | credit account amount now | append e => cases isEnd
  · rw [waits]
    exact wait_turned id s hands held _ _ later rfl (.call name c inside later copy) hand

theorem call_turned (wait : Wait) :
    Turned (.call name c inside) id s hands
      (Process.resume Answer.refused id ⟨callOnly c, wait, some copy, some name, none⟩ s) := by
  rcases (Bool.or_eq_true _ _).mp inside with isWork | isEnd
  · exact work_turned id s hands held name c inside copy hand isWork wait
  · exact end_turned id s hands held name c inside copy hand isEnd wait

end Call

theorem missing_turned (a : Act) (name : String) (time : Nat) (needs : a.unit? = some name) (empty : hands id = none) :
    Turned a id s hands (.finished (.noUnit name) time, s) := by
  have kept : Function.update hands id none = hands := by rw [← empty, Function.update_eq_self]
  refine .answered _ time s (by rw [kept]; exact held) ?_
  rw [kept]
  exact .missing a name needs _

theorem start_turned (a : Act) (empty : hands id = none) :
    Turned a id s hands (Process.start Answer.refused id s a.job) := by
  cases a with
  | read c isRead => exact read_turned id s hands held c isRead .fresh empty
  | begin name => exact begin_turned id s hands held name .fresh empty
  | call name c inside =>
      cases found : s.openUnits.lookup name with
      | none =>
          simp only [Act.job, Process.start, Store.takeUnit, found, Option.map_none]
          exact missing_turned id s hands held _ name _ rfl empty
      | some copy =>
          obtain ⟨own, units, nobody⟩ := held_lookup s hands held name copy found
          simp only [Act.job, Process.start, Store.takeUnit, found, Option.map_some]
          obtain ⟨heldTaken, same⟩ := taken_held s hands id name copy
            { s with openUnits := s.openUnits.filter fun unit => unit.1 != name, owner := some (.process id) }
            own units nobody rfl (by simp [units]) rfl
          exact turned_from _ id s _ hands _ _ same
            (call_turned id _ _ heldTaken name c inside copy (Function.update_self ..) .fresh)
  | drop name =>
      cases found : s.openUnits.lookup name with
      | none =>
          simp only [Act.job, Process.start, Store.dropUnit, found, Option.map_none]
          exact missing_turned id s hands held _ name _ rfl empty
      | some copy =>
          obtain ⟨own, units, nobody⟩ := held_lookup s hands held name copy found
          simp only [Act.job, Process.start, Store.dropUnit, found, Option.map_some]
          obtain ⟨released, nothing⟩ :=
            release_held { s with openUnits := s.openUnits.filter fun unit => unit.1 != name } hands id
              (by simp [units]) fun other _ => nobody other
          refine .answered _ _ _ released ?_
          have before : opened s hands = some (name, copy) := by simp only [opened, own, units, List.head?_cons]
          rw [stateOf, stateOf, before, nothing, Store.release_committed]
          exact .dropped name copy s.committed

theorem poll_turned (a : Act) (p : Process Answer) (unfinished : p.isFinished = false) (seat : Seat a p)
    (hand : hands id = inHand p) : Turned a id s hands (p.poll Answer.refused id s) := by
  cases seat with
  | waiting a => exact start_turned id s hands held a hand
  | read c isRead wait => exact read_turned id s hands held c isRead wait hand
  | begin name wait => exact begin_turned id s hands held name wait hand
  | call name c inside wait copy => exact call_turned id s hands held name c inside copy hand wait
  | finished a answer time => cases unfinished

theorem abandon_held (p : Process Answer) (hand : hands id = inHand p) :
    Held (p.abandon s id) (Function.update hands id none) ∧
      stateOf (p.abandon s id) (Function.update hands id none) =
        if (inHand p).isSome then ⟨none, s.committed⟩ else stateOf s hands := by
  have nothing : hands id = none → Function.update hands id none = hands := fun empty => by
    rw [← empty, Function.update_eq_self]
  cases p with
  | waiting job | finished answer time =>
      rw [nothing hand]
      exact ⟨held, rfl⟩
  | running r =>
      rw [← hand, Process.abandon]
      by_cases own : s.owner = some (.process id)
      · have withdrawn : s.withdraw id = s.release := if_pos (by simp [Store.holds, own])
        obtain ⟨units, others⟩ := held_alone s hands held id (.inr own)
        obtain ⟨released, none⟩ := release_held s hands id units others
        rw [withdrawn]
        refine ⟨released, ?_⟩
        rw [stateOf, none, Store.release_committed]
        cases holding : hands id with
        | some unit => rfl
        | none =>
            have before : opened s hands = Option.none := by simp only [opened, own, holding]
            rw [stateOf, before]
            rfl
      · have withdrawn : s.withdraw id = { s with queue := s.queue.filter (· != id) } :=
          if_neg (by simpa [Store.holds] using own)
        have empty : hands id = none := by
          cases found : hands id with
          | none => rfl
          | some unit => exact absurd (held_owner s hands held id unit found) own
        rw [withdrawn, nothing empty, empty]
        exact ⟨held_congr s hands held _ rfl rfl, rfl⟩

end Turns

end DoubleEntry.Units
