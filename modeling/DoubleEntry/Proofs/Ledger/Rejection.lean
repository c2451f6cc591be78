import DoubleEntry.Proofs.Ledger.Conduct
import DoubleEntry.Proofs.Program.Always

/-!
What errors tell. Those of an input alone come before any call to the store; an operation whose input passes the checks
never comes to one of them, whatever the store replies. The work itself only comes to errors that it has found; a deadline
is not one of them.
-/

set_option autoImplicit false

namespace DoubleEntry

def LedgerError.isRejection : LedgerError → Bool
  | negativeBalance | negativeAmount | sameAccount => true
  | _ => false

-- Found in the accounts, or in the store.
def LedgerError.isFound : LedgerError → Bool
  | notFound _ | partyNotFound _ _ | alreadyExists _ | insufficientFunds _ | internal _ _ => true
  | _ => false

theorem found_error (e : LedgerError) (found : e.isFound = true) : e.isRejection = false ∧ e.isRetryable = false := by
  cases e with
  | notFound id | partyNotFound source destination | alreadyExists id | insufficientFunds id | internal context cause =>
      exact ⟨rfl, rfl⟩
  | negativeBalance | negativeAmount | sameAccount | timeout operation => cases found

theorem rejection_lasts (e : LedgerError) (rejection : e.isRejection = true) : e.isRetryable = false := by
  cases e with
  | negativeBalance | negativeAmount | sameAccount => rfl
  | notFound id | partyNotFound source destination | alreadyExists id | insufficientFunds id | internal context cause
  | timeout operation => cases rejection

namespace Ledger

open Program (Always)

variable {α : Type}

theorem rejection_found (o : Operation) (e : LedgerError) (rejected : o.rejection? = some e) : e.isRejection = true := by
  cases o with
  | getBalance id | listEntries id => cases rejected
  | createAccount input =>
      rw [Operation.rejection?] at rejected
      split at rejected <;> cases rejected
      rfl
  | createTransfer input =>
      rw [Operation.rejection?] at rejected
      split at rejected
      · cases rejected
        rfl
      · split at rejected <;> cases rejected
        rfl

def Found (r : Result α) : Prop := ∀ e, r = .error e → e.isFound = true

def Fair (r : Result α) : Prop := ∀ e, r = .error e → e.isRejection = false

theorem found_ok (value : α) : Found (.ok value : Result α) := by
  intro e impossible
  cases impossible

theorem found_failure (e : LedgerError) (found : e.isFound = true) : Found (.error e : Result α) := by
  intro _ same
  cases same
  exact found

theorem found_fair (r : Result α) (found : Found r) : Fair r := fun e failed => (found_error e (found e failed)).1

theorem attempt_found (c : Call) (failed : StoreError → LedgerError) (next : c.Reply → Program (Result α))
    (failing : ∀ e, (failed e).isFound = true) (later : ∀ value, (next value).Always True Found) :
    (attempt c failed next).Always True Found := by
  refine ⟨trivial, ?_⟩
  intro reply
  cases reply with
  | ok value => exact later value
  | error e => exact found_failure _ (failing e)

theorem settle_found (context : String) (r : Result α) (found : Found r) : (settle context r).Always True Found := by
  cases r with
  | ok value => exact attempt_found _ _ _ (fun _ => rfl) fun _ => found_ok value
  | error cause =>
      refine ⟨trivial, ?_⟩
      intro reply
      cases reply with
      | ok _ | error _ => exact found

theorem unit_found (context : String) (body : Program (Result α)) (found : body.Always True Found) :
    (inUnit context body).Always True Found :=
  attempt_found _ _ _ (fun _ => rfl) fun _ => Program.always_bind True Found Found _ (settle_found context) body found

theorem bounded_found (limit : Option Nat) (operation context : String) (body : Program (Result α)) (line : α → LogLine)
    (found : body.Always True Found) :
    ((bounded limit operation (inUnit context body)).bind (reported line)).body.Always True Found := by
  refine Program.always_bind True Found Found _ ?_ _ (unit_found context body found)
  intro r own
  exact Program.always_closes True Found _ r (reported_closes line r) own

theorem bounded_fair (limit : Option Nat) (operation context : String) (body : Program (Result α)) (line : α → LogLine)
    (found : body.Always True Found) :
    ((bounded limit operation (inUnit context body)).bind (reported line)).Always True Fair := by
  refine ⟨Program.always_mono True True Found Fair id found_fair _ (bounded_found limit _ _ _ _ found), ?_⟩
  intro d deadline
  obtain ⟨own, bounded, rfl⟩ := Option.map_eq_some_iff.mp deadline
  obtain ⟨after, _, rfl⟩ := Option.map_eq_some_iff.mp bounded
  intro e same
  cases same
  rfl

theorem insert_account_found (context : String) (id : AccountId) (balance : Decimal) :
    (insertAccount context id balance).Always True Found := by
  have failing : ∀ e, (insertFailed context id e).isFound = true := by
    intro e
    cases e <;> rfl
  intro now
  refine attempt_found _ _ _ failing fun account => ?_
  exact attempt_found _ _ _ (fun _ => rfl) fun _ => found_ok account

theorem move_funds_found (context : String) (source destination : AccountId) (amount : Decimal) :
    (moveFunds context source destination amount).Always True Found := by
  refine attempt_found _ _ _ (fun _ => rfl) fun found => ?_
  by_cases missing : found.length < 2
  · rw [if_pos missing]
    exact found_failure _ rfl
  rw [if_neg missing]
  intro now
  refine attempt_found _ _ _ (fun _ => rfl) fun debited => ?_
  by_cases short : debited = 0
  · rw [if_pos short]
    exact found_failure _ rfl
  rw [if_neg short]
  refine attempt_found _ _ _ (fun _ => rfl) fun credited => ?_
  by_cases lost : credited = 0
  · rw [if_pos lost]
    exact found_failure _ rfl
  rw [if_neg lost]
  refine attempt_found _ _ _ (fun _ => rfl) fun _ => ?_
  exact attempt_found _ _ _ (fun _ => rfl) fun _ => found_ok ()

theorem read_account_found (id : AccountId) : (readAccount id).Always True Found := by
  refine attempt_found _ _ _ (fun _ => rfl) fun found => ?_
  cases found with
  | none => exact found_failure _ rfl
  | some account => exact found_ok account

theorem read_entries_found (id : AccountId) : (readEntries id).Always True Found := by
  refine Program.always_bind True Found Found _ ?_ _ (read_account_found id)
  intro found own
  cases found with
  | error e => exact found_failure e (own e rfl)
  | ok account => exact attempt_found _ _ _ (fun _ => rfl) fun entries => found_ok entries

theorem create_account_fair (limit : Option Nat) (input : NewAccount)
    (accepted : (Operation.createAccount input).rejection? = none) : (createAccount limit input).Always True Fair := by
  rw [accepted_account limit input accepted]
  exact bounded_fair limit _ _ _ _ (insert_account_found _ _ _)

theorem create_transfer_fair (limit : Option Nat) (input : Transfer)
    (accepted : (Operation.createTransfer input).rejection? = none) :
    (createTransfer limit input).Always True Fair := by
  rw [accepted_transfer limit input accepted]
  exact bounded_fair limit _ _ _ _ (move_funds_found _ _ _ _)

end Ledger
end DoubleEntry
