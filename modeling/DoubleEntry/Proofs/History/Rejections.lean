import DoubleEntry.Proofs.History.Answers
import DoubleEntry.Proofs.Http.Checks
import DoubleEntry.Proofs.Store.Mirror

/-!
Requests that are rejected. Whether a request is, and with what, is a matter of the request alone: the answer is the same
in every history and on every store, comes in the first turn and without a call, and tells of the first check that fails.
-/

set_option autoImplicit false

namespace DoubleEntry

open Http (Request Response Route)
open Session (Answer)

namespace History

/-- A request that is answered in the same way everywhere: by any store there can be, without a call; in any state of the
store, whoever has the lock, in the first turn and before any time passes; and so in every history. -/
structure Rejected (r : Request) (x : Response) : Prop where
  silent : ∀ (σ : Type) (store : AnyStore σ) (limit : Option Nat) (s : σ),
    (Http.handle limit r).body.play store s = ⟨x, [], s⟩
  atOnce : ∀ (limit : Option Nat) (id : Nat) (s : Store), ∃ log,
    (Process.waiting (.task ((Demand.request r).task limit))).poll Answer.refused id s =
      (.finished (.response x) s.now, s.relog log)
  everywhere : ∀ start events, ∀ record ∈ (run start events).records, record.demand = .request r →
    record.answer = .response x

structure Passed (r : Request) : Prop where
  stores : ∀ (σ : Type) (store : AnyStore σ) (limit : Option Nat) (s : σ),
    ¬ ((Http.handle limit r).body.play store s).answer.IsRejection
  histories : ∀ start events, ∀ record ∈ (run start events).records, record.demand = .request r →
    ∀ x, record.answer = .response x → ¬ x.IsRejection

def Judgement (r : Request) : Option Response → Prop
  | some problem => problem.IsRejection ∧ Rejected r (Http.decorate r problem)
  | none => Passed r

section Requests

variable (r : Request)

theorem closed_rejected (x : Response)
    (closed : ∀ limit, ∃ p, Http.handle limit r = .unlimited p ∧ p.Closes x) : Rejected r x := by
  refine ⟨?_, ?_, ?_⟩
  · intro σ store limit s
    obtain ⟨p, handled, closes⟩ := closed limit
    rw [handled]
    exact Program.play_closes store p x s closes
  · intro limit id s
    obtain ⟨p, handled, closes⟩ := closed limit
    have told : (p.bind fun x => .done (Answer.response x)).Closes (.response x) :=
      Program.closes_bind p _ x _ closes (.done _)
    obtain ⟨log, ran⟩ := run_logs id _ _ .fresh none s told
    refine ⟨log, ?_⟩
    simp only [Process.poll, Process.start, Process.resume, Demand.task, handled, Task.map, Task.bind, Task.unlimited, ran]
    rfl
  · -- Nothing is asked of the other demands, which may panic.
    refine records_always (fun d => d ≠ .request r) (fun d a => d = .request r → a = .response x) ?_ ?_
    · intro d limit
      by_cases same : d = .request r
      · obtain ⟨p, handled, closes⟩ := closed limit
        subst same
        rw [Demand.task, handled]
        exact unlimited_always _ _ _ (Program.always_closes _ _ _ (Answer.response x)
          (Program.closes_bind p _ x _ closes (.done _)) fun _ => rfl)
      · exact task_always_any _ _ same (fun a own => absurd own same) _
    · intro d other e own
      exact absurd own other

theorem fair_passed (fair : ∀ limit, (Http.handle limit r).Always True fun x => ¬ x.IsRejection) : Passed r := by
  refine ⟨?_, ?_⟩
  · intro σ store limit s
    exact Program.play_always store True (fun x : Response => ¬ x.IsRejection) _ (fair limit).body s
  · intro start events record member demand x answer
    exact request_always r (fun x => ¬ x.IsRejection) fair start events record member demand x answer

theorem request_judged : Judgement r (Http.problem? r) := by
  cases problem : Http.problem? r with
  | some x =>
      exact ⟨Http.problem_rejection r x problem, closed_rejected r _ fun limit => Http.problem_handled limit r x problem⟩
  | none =>
      refine fair_passed r fun limit => ?_
      have judged := Http.handle_judged limit r
      rw [problem] at judged
      generalize Http.handle limit r = t at judged
      cases judged with
      | fine t always => exact always

end Requests

end History
end DoubleEntry
