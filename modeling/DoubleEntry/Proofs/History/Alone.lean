import DoubleEntry.Proofs.Book.SoloStore
import DoubleEntry.Proofs.History.Demand

/-!
An operation on books that are tidy, executed alone: it answers as on the position that the books hold, and leads to
books that hold the position behind it.
-/

set_option autoImplicit false

namespace DoubleEntry

open Ledger (Operation Outcome)
open Session (Answer)
open Time (Stamp)

section Alone

variable (now : Stamp) (b : Book) (tidy : b.Tidy) (o : Operation) (fits : b.position.WithinLimit o)

include tidy fits

theorem solo_follows : ∃ outcome later,
    ((Demand.operation o).task none).body.solo now none b = .ok (.outcome outcome, later) ∧
    outcome.gist = (b.position.perform o).1 ∧ later.Tidy ∧ later.position = (b.position.perform o).2 := by
  obtain ⟨told, later, ended, tidyLater, same⟩ := (Book.soloContract now).operation_follows b.position o
    (some (none, b)) (fun _ _ => trivial) fits ⟨b, rfl, tidy, rfl⟩
  have solo := Book.solo_store_plays now (o.task none).body none none b later ended
  have demanded := demand_solo (.operation o) now b o rfl
  rw [solo] at demanded
  exact ⟨_, later, demanded, told, tidyLater, same⟩

theorem alone_follows : ∃ outcome later, (Demand.operation o).alone now b = (.outcome outcome, later) ∧
    outcome.gist = (b.position.perform o).1 ∧ later.Tidy ∧ later.position = (b.position.perform o).2 := by
  obtain ⟨outcome, later, solo, follows⟩ := solo_follows now b tidy o fits
  exact ⟨outcome, later, alone_of_solo _ now b _ later solo, follows⟩

end Alone

end DoubleEntry
