import DoubleEntry.Ledger.Program

/-!
Injected trouble: the steps at which a store fails, and the time that each of its calls takes. Reads outside
of a unit of work never fail.
-/

set_option autoImplicit false

namespace DoubleEntry

inductive FailPoint where
  | begin
  | getAccounts
  | createAccount
  | debitAccount
  | creditAccount
  | appendEntry
  | commit
  | rollback
deriving DecidableEq, Repr

namespace FailPoint

def name : FailPoint → String
  | begin => "Begin"
  | getAccounts => "GetAccounts"
  | createAccount => "CreateAccount"
  | debitAccount => "DebitAccount"
  | creditAccount => "CreditAccount"
  | appendEntry => "AppendLedgerEntry"
  | commit => "Commit"
  | rollback => "Rollback"

def all : List FailPoint :=
  [begin, getAccounts, createAccount, debitAccount, creditAccount, appendEntry, commit, rollback]

def ofName? (name : String) : Option FailPoint := all.find? fun point => point.name == name

def error (point : FailPoint) : StoreError := .backend ("injected failure at " ++ point.name)

end FailPoint

def Call.failPoint? : Call → Option FailPoint
  | getAccount _ | listEntries _ => none
  | begin => some .begin
  | getAccounts _ => some .getAccounts
  | createAccount _ => some .createAccount
  | debit _ _ _ => some .debitAccount
  | credit _ _ _ => some .creditAccount
  | append _ => some .appendEntry
  | commit => some .commit
  | rollback => some .rollback

structure Control where
  faults : List FailPoint
  latency : Nat

namespace Control

def quiet : Control := ⟨[], 0⟩

def failure? (k : Control) (c : Call) : Option StoreError :=
  (c.failPoint?.filter fun point => k.faults.contains point).map FailPoint.error

theorem calm_passes (k : Control) (calm : k.faults = []) (c : Call) : k.failure? c = none := by
  cases point : c.failPoint? <;> simp [failure?, point, calm]

end Control
end DoubleEntry
