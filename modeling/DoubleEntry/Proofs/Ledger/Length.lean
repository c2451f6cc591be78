import DoubleEntry.Proofs.Ledger.Posting
import DoubleEntry.Proofs.Program.Length

/-!
How long operations of the ledger are: each makes seven calls at most, whatever the replies.
-/

set_option autoImplicit false

namespace DoubleEntry.Ledger

open Program (Within)

variable {α : Type}

theorem attempt_within (n : Nat) (c : Call) (failed : StoreError → LedgerError) (next : c.Reply → Program (Result α))
    (within : ∀ reply, Within n (next reply)) : Within (n + 1) (attempt c failed next) := by
  refine .call n c _ ?_
  intro reply
  cases reply with
  | ok value => exact within value
  | error e => exact .done n _

theorem unit_within (n : Nat) (context : String) (body : Program (Result α)) (within : Within n body) :
    Within (n + 2) (inUnit context body) := by
  refine attempt_within (n + 1) _ _ _ fun _ => Program.within_bind n 1 body _ within ?_
  intro r
  cases r with
  | ok value => exact attempt_within 0 _ _ _ fun _ => .done 0 _
  | error cause =>
      refine .call 0 _ _ ?_
      intro reply
      cases reply with
      | ok _ => exact .done 0 _
      | error e => exact .log 0 _ _ (.done 0 _)

theorem insert_account_within (context : String) (id : AccountId) (balance : Decimal) :
    Within 2 (insertAccount context id balance) :=
  .clock 2 _ fun _ => attempt_within 1 _ _ _ fun _ => attempt_within 0 _ _ _ fun _ => .done 0 _

theorem move_funds_within (context : String) (source destination : AccountId) (amount : Decimal) :
    Within 5 (moveFunds context source destination amount) := by
  refine attempt_within 4 _ _ _ fun found => ?_
  by_cases missing : found.length < 2
  · rw [if_pos missing]
    exact .done 4 _
  rw [if_neg missing]
  refine .clock 4 _ fun now => attempt_within 3 _ _ _ fun debited => ?_
  by_cases short : debited = 0
  · rw [if_pos short]
    exact .log 3 _ _ (.done 3 _)
  rw [if_neg short]
  refine attempt_within 2 _ _ _ fun credited => ?_
  by_cases lost : credited = 0
  · rw [if_pos lost]
    exact .done 2 _
  rw [if_neg lost]
  exact attempt_within 1 _ _ _ fun _ => attempt_within 0 _ _ _ fun _ => .done 0 _

theorem read_account_within (id : AccountId) : Within 1 (readAccount id) := by
  refine attempt_within 0 _ _ _ fun found => ?_
  cases found with
  | none => exact .done 0 _
  | some account => exact .done 0 _

theorem read_entries_within (id : AccountId) : Within 2 (readEntries id) := by
  refine Program.within_bind 1 1 _ _ (read_account_within id) fun found => ?_
  cases found with
  | error e => exact .done 1 _
  | ok account => exact attempt_within 0 _ _ _ fun _ => .done 0 _

theorem within_closing {β : Type} (n : Nat) (p : Program α) (f : α → Program β) (g : α → β) (within : Within n p)
    (closing : ∀ a, (f a).Closes (g a)) : Within n (p.bind f) :=
  Program.within_bind n 0 p f within fun a => Program.within_closes (f a) (g a) (closing a)

theorem operation_within (limit : Option Nat) (o : Operation) : Within 7 (o.task limit).body := by
  cases rejected : o.rejection? with
  | some e =>
      rw [rejected_task limit o e rejected]
      exact .done 7 _
  | none =>
      cases o with
      | createAccount input =>
          simp only [Operation.task, accepted_account limit input rejected]
          refine within_closing 7 _ _ _ (within_closing 7 _ _ id ?_ (reported_closes _)) fun _ => .done _
          exact Program.within_mono 4 7 _ (by decide) (unit_within 2 _ _ (insert_account_within _ _ _))
      | createTransfer input =>
          simp only [Operation.task, accepted_transfer limit input rejected]
          refine within_closing 7 _ _ _ (within_closing 7 _ _ id ?_ (reported_closes _)) fun _ => .done _
          exact unit_within 5 _ _ (move_funds_within _ _ _ _)
      | getBalance account =>
          refine within_closing 7 _ _ _ ?_ fun _ => .done _
          exact Program.within_mono 1 7 _ (by decide) (read_account_within account)
      | listEntries account =>
          refine within_closing 7 _ _ _ ?_ fun _ => .done _
          exact Program.within_mono 2 7 _ (by decide) (read_entries_within account)

end DoubleEntry.Ledger
