import DoubleEntry.Decimal.Printer
import DoubleEntry.Time.Moment

/-!
Accounts, the entries of their journal, and what is asked of a ledger. An entry moves a signed amount: a
credit is positive, a debit negative, and the entries of an account add up to its balance.
-/

set_option autoImplicit false

namespace DoubleEntry

open Time (Stamp)

abbrev AccountId := Int

structure Account where
  id : AccountId
  balance : Decimal
  created : Stamp
  modified : Stamp
deriving DecidableEq

structure Entry where
  id : Int
  account : AccountId
  amount : Decimal
  created : Stamp
deriving DecidableEq

structure NewAccount where
  id : AccountId
  initialBalance : Decimal
deriving DecidableEq

structure Transfer where
  source : AccountId
  destination : AccountId
  amount : Decimal
deriving DecidableEq

structure NewEntry where
  account : AccountId
  amount : Decimal
  created : Stamp
deriving DecidableEq

end DoubleEntry
