import DoubleEntry.Json.Reader
import DoubleEntry.Json.Writer
import DoubleEntry.Ledger.Account

/-!
Accounts and entries as JSON. Decimals are written as texts with every digit of their scale, and dates in
UTC with a `Z`.
-/

set_option autoImplicit false

namespace DoubleEntry

open Json

def decimalJson (d : Decimal) : String := textJson d.toText

namespace Account

def fields : List Field :=
  [⟨"account_id", false, readInt64⟩, ⟨"balance", false, readDecimal⟩,
   ⟨"created_date", false, readMoment⟩, ⟨"last_modified_date", false, readMoment⟩]

def ofDatum? : Datum → Option Account
  | .record [.int id, .decimal balance, .moment created, .moment modified] =>
    some ⟨id, balance, .moment created, .moment modified⟩
  | _ => none

def read : Reader Datum := readRecord "Account" fields

def toJson (a : Account) : String :=
  objectJson [("account_id", intJson a.id), ("balance", decimalJson a.balance),
    ("created_date", textJson a.created.withZ), ("last_modified_date", textJson a.modified.withZ)]

end Account

namespace Entry

def fields : List Field :=
  [⟨"entry_id", false, readInt64⟩, ⟨"account_id", false, readInt64⟩,
   ⟨"amount", false, readDecimal⟩, ⟨"created_date", false, readMoment⟩]

def ofDatum? : Datum → Option Entry
  | .record [.int id, .int account, .decimal amount, .moment created] =>
    some ⟨id, account, amount, .moment created⟩
  | _ => none

def read : Reader Datum := readRecord "LedgerEntry" fields

def toJson (e : Entry) : String :=
  objectJson [("entry_id", intJson e.id), ("account_id", intJson e.account),
    ("amount", decimalJson e.amount), ("created_date", textJson e.created.withZ)]

end Entry
end DoubleEntry
