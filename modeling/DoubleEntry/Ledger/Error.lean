import DoubleEntry.Ledger.Account

/-!
How a store and a ledger can fail. A ledger's error is a refusal of the input, a fact about the accounts,
a deadline that has passed, or a store's failure at a step that is named.
-/

set_option autoImplicit false

namespace DoubleEntry

inductive StoreError where
  | duplicateKey (detail : String)
  | backend (detail : String)
deriving DecidableEq, Repr

def StoreError.message : StoreError → String
  | .duplicateKey detail => "duplicate key: " ++ detail
  | .backend detail => detail

inductive LedgerError where
  | negativeBalance
  | negativeAmount
  | sameAccount
  | notFound (id : AccountId)
  | partyNotFound (source destination : AccountId)
  | alreadyExists (id : AccountId)
  | insufficientFunds (id : AccountId)
  | timeout (operation : String)
  | internal (context : String) (cause : StoreError)
deriving DecidableEq, Repr

namespace LedgerError

def message : LedgerError → String
  | negativeBalance => "Initial balance cannot be negative"
  | negativeAmount => "Transfer amount cannot be negative"
  | sameAccount => "Source and destination account cannot be the same"
  | notFound id => s!"Account not found: {id}"
  | partyNotFound source destination =>
    s!"Account not found for transfer from {source} to {destination}"
  | alreadyExists id => s!"Account already exists: {id}"
  | insufficientFunds id => s!"Insufficient funds in account {id}"
  | timeout operation => "Operation timed out: " ++ operation
  | internal context cause => "Internal error: " ++ context ++ ": " ++ cause.message

def code : LedgerError → String
  | negativeBalance => "NEGATIVE_BALANCE"
  | negativeAmount => "NEGATIVE_AMOUNT"
  | sameAccount => "SAME_ACCOUNT"
  | notFound _ | partyNotFound _ _ => "ACCOUNT_NOT_FOUND"
  | alreadyExists _ => "ACCOUNT_ALREADY_EXISTS"
  | insufficientFunds _ => "INSUFFICIENT_FUNDS"
  | timeout _ => "TIMEOUT"
  | internal _ _ => "INTERNAL_ERROR"

def status : LedgerError → Nat
  | negativeBalance | negativeAmount | sameAccount => 400
  | notFound _ | partyNotFound _ _ => 404
  | alreadyExists _ | insufficientFunds _ => 409
  | internal _ _ => 500
  | timeout _ => 504

def isRetryable : LedgerError → Bool
  | timeout _ => true
  | _ => false

end LedgerError
end DoubleEntry
