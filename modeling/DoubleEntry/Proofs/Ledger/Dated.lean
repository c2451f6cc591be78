import DoubleEntry.Proofs.Ledger.Discipline
import DoubleEntry.Proofs.Ledger.Posting

/-!
The operations of the ledger date what they write. Those that change accounts read the clock once, in their unit of work,
and whatever they append carries that date.
-/

set_option autoImplicit false

namespace DoubleEntry.Ledger

variable (context : String)

theorem insert_account_dated (id : AccountId) (balance : Decimal) :
    ((insertAccount context id balance).bind (settle context)).FollowsIn dating none := by
  refine .clock none _ rfl fun now => ?_
  refine attempt_follows dating context _ _ _ _ rfl nofun fun account reading same => ?_
  cases same
  refine attempt_follows dating context _ _ _ _ rfl ?_ fun _ reading _ => settle_follows dating context reading (.ok account)
  rintro _ ⟨⟩
  rfl

theorem move_funds_dated (source destination : AccountId) (amount : Decimal) :
    ((moveFunds context source destination amount).bind (settle context)).FollowsIn dating none := by
  refine attempt_follows dating context none _ _ _ rfl nofun fun found reading same => ?_
  cases same
  by_cases missing : found.length < 2
  · rw [if_pos missing]
    exact settle_follows dating context none (.error _)
  rw [if_neg missing]
  refine .clock none _ rfl fun now => ?_
  refine attempt_follows dating context _ _ _ _ rfl nofun fun debited reading same => ?_
  cases same
  by_cases short : debited = 0
  · rw [if_pos short]
    exact .log _ _ _ (settle_follows dating context (some now) (.error _))
  rw [if_neg short]
  refine attempt_follows dating context _ _ _ _ rfl nofun fun credited reading same => ?_
  cases same
  by_cases lost : credited = 0
  · rw [if_pos lost]
    exact settle_follows dating context (some now) (.error _)
  rw [if_neg lost]
  refine attempt_follows dating context _ _ _ _ rfl ?_ fun _ reading same => ?_
  · rintro _ ⟨⟩
    rfl
  cases same
  refine attempt_follows dating context _ _ _ _ rfl ?_ fun _ reading _ => settle_follows dating context reading (.ok ())
  rintro _ ⟨⟩
  rfl

theorem operation_dated (limit : Option Nat) (o : Operation) : (o.task limit).body.Follows dating := by
  refine operation_inherits (fun _ p => p.Follows dating) (fun _ p => Program.reads_follow dating p)
    (fun _ _ g p q => Program.mirrors_follows dating g p q) limit o ?_ ?_
  · intro input _ _
    refine unit_follows dating _ _ fun reading none => ?_
    rw [none]
    exact insert_account_dated _ _ _
  · intro t _ _
    refine unit_follows dating _ _ fun reading none => ?_
    rw [none]
    exact move_funds_dated _ _ _ _

end DoubleEntry.Ledger
