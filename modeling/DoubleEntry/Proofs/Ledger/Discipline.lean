import DoubleEntry.Proofs.Ledger.Effect
import DoubleEntry.Proofs.Program.Discipline

/-!
Units of work of the ledger under a discipline. An end is always allowed, also after an attempt that failed, so that a unit
follows a discipline if its calls are allowed where they come.
-/

set_option autoImplicit false

namespace DoubleEntry.Ledger

variable {α σ : Type} (d : Discipline σ) (context : String) (state : σ)

theorem settle_follows (r : Result α) : (settle context r).FollowsIn d state := by
  cases r with
  | ok value =>
      refine .ends state .commit _ rfl fun reply => ?_
      cases reply with
      | ok _ => exact ⟨_, .done _⟩
      | error e => exact ⟨_, .done _⟩
  | error cause =>
      refine .ends state .rollback _ rfl fun reply => ?_
      cases reply with
      | ok _ => exact ⟨_, .done _⟩
      | error e => exact ⟨_, .log _ _ _ (.done _)⟩

theorem attempt_follows (c : Call) (failed : StoreError → LedgerError) (next : c.Reply → Program (Result α))
    (isWork : c.isWork = true) (allowed : d.allows state c)
    (goes : ∀ value later, d.leads state c (.ok value) later → ((next value).bind (settle context)).FollowsIn d later) :
    ((attempt c failed next).bind (settle context)).FollowsIn d state := by
  refine .work state c _ isWork allowed fun reply later leads => ?_
  cases reply with
  | ok value => exact goes value later leads
  | error e => exact settle_follows d context later (.error (failed e))

theorem unit_follows (p : Program (Result α))
    (follows : ∀ state, d.begins state → (p.bind (settle context)).FollowsIn d state) : (inUnit context p).Follows d :=
  .begin _ follows fun _ => ⟨_, .done _⟩

end DoubleEntry.Ledger
