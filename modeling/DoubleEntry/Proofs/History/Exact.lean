import DoubleEntry.Proofs.History.Answers
import DoubleEntry.Proofs.History.Requests
import DoubleEntry.Proofs.Ledger.Exact

/-!
Histories do not panic and do not round. Whatever is asked for, with whatever amounts, and whatever fails, cuts in or is
given up: the calls that operations make on the books take exact sums and differences of numbers with five digits.
-/

set_option autoImplicit false

namespace DoubleEntry

open Ledger (WellKept CallOf Exact exactness)
open Session (Answer)

section Demands

variable (limit : Option Nat) (d : Demand)

theorem demand_safe : (d.task limit).body.Follows (exactness d.operation?) := by
  refine demand_inherits (fun _ p => p.Follows (exactness d.operation?)) (fun _ p a => .closes p a)
    (fun _ _ g p q => Program.mirrors_follows _ g p q) limit d ?_
  intro o asks
  rw [asks]
  exact Ledger.operation_safe limit o

theorem demand_told : (d.task limit).Always True fun a => ∀ e, a ≠ .refused e := by
  cases d with
  | operation o =>
      have any := task_always_any True (fun _ => True) trivial (fun _ => trivial) (o.task limit)
      exact task_always_map True _ _ Answer.outcome (fun _ _ => nofun) _ any
  | request r =>
      have any := task_always_any True (fun _ => True) trivial (fun _ => trivial) (Http.handle limit r)
      exact task_always_map True _ _ Answer.response (fun _ _ => nofun) _ any

end Demands

namespace History

def copyCalls (h : History) (id : Nat) : List CopyCall :=
  match h.system.processes[id]? with
  | some p => p.copyCalls id h.system.store
  | none => []

-- What is kept of a demand that may be asked of books as histories leave them.
def Sober (s : Store) (d : Demand) (p : Process Answer) : Prop :=
  CopyCall.Ready WellKept (CallOf d.operation?) (fun a => ∀ e, a ≠ .refused e) s p

theorem sober_invariant : Invariant (fun s => WellKept s.committed) Sober fun _ a => ∀ e, a ≠ .refused e := by
  refine ⟨?_, ?_, ?_⟩
  · intro s d limit
    refine .waiting _ (demand_safe limit d) (demand_told limit d) ?_
    intro own deadline
    obtain ⟨a, _, closes⟩ := (demand_orderly d limit).2 own deadline
    exact ⟨a, closes⟩
  · exact fun s later d p => CopyCall.ready_later _ _ _ s p later
  · intro id s d p fine _ ready
    have polled := (CopyCall.poll_safe _ _ _ id Answer.refused s fine p ready).2
    generalize p.poll Answer.refused id s = x at polled
    obtain ⟨q, later⟩ := x
    cases q with
    | waiting job | running r => exact polled
    | finished a time =>
        cases polled with
        | finished _ _ own => exact own

/-- No history panics, and each call on a copy of the books is one of an operation that is asked for, exact in all that
it adds, takes away or negates. As long as entries can be numbered in a word, with three to spare, so is the next one. -/
theorem histories_are_exact (events : List Event) :
    (∀ r ∈ (run Store.empty events).records, ∀ e, r.answer ≠ .refused e) ∧
    ∀ id d started, (run Store.empty events).demands[id]? = some (d, started) →
      ∀ m ∈ (run Store.empty events).copyCalls id,
        (∃ o, d.operation? = some o ∧ Exact m.copy o m.call) ∧
        ∀ e, m.call = .append e → m.committed.entries.length < 2 ^ 63 - 3 → m.copy.lastEntry + 1 < 2 ^ 63 := by
  have always : ∀ events, WellKept (run Store.empty events).system.store.committed := fun events =>
    ⟨run_balanced Store.empty events Book.empty_balanced, run_in_order Store.empty events Book.empty_in_order⟩
  have allowed := run_allowed _ _ _ sober_invariant Store.empty always events
  refine ⟨allowed.records, ?_⟩
  intro id d started asked m member
  rw [copyCalls] at member
  cases found : (run Store.empty events).system.processes[id]? with
  | none =>
      rw [found] at member
      cases member
  | some p =>
      rw [found] at member
      cases finished : p.isFinished with
      | true =>
          cases p with
          | waiting job | running r => cases finished
          | finished a time => cases member
      | false =>
          have ready := allowed.pending id d started p asked found finished
          obtain ⟨those, _⟩ := CopyCall.poll_safe _ _ _ id Answer.refused _ (always events) p ready
          obtain ⟨base, grown, own, numbered⟩ := those m member
          refine ⟨own, ?_⟩
          intro e appends room
          have shorter := grown.entries.length_le
          have last := (numbered e appends).2
          omega

-- A transfer of nothing makes all of its calls.
example : ((run Store.empty [.ask none (.operation (.createAccount ⟨1, .zero⟩)), .poll 0,
    .ask none (.operation (.createAccount ⟨2, .zero⟩)), .poll 1,
    .ask none (.operation (.createTransfer ⟨1, 2, .zero⟩))]).copyCalls 2).length = 5 := by rfl

end History
end DoubleEntry
