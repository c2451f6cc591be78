import DoubleEntry.Ledger.Codec

/-!
The bodies of requests and answers. A field of a request may be left out or null; what is missing is found
by the checks that follow. Amounts in answers have no zeros at the end of their fraction.
-/

set_option autoImplicit false

namespace DoubleEntry.Http

open Json

structure AccountRequest where
  id : Option Int
  initialBalance : Option String
deriving DecidableEq, Repr

structure TransferRequest where
  source : Option Int
  destination : Option Int
  amount : Option String
deriving DecidableEq, Repr

structure BalanceBody where
  account : String
  balance : String
deriving DecidableEq, Repr

structure EntryBody where
  id : Int
  amount : String
  created : String
deriving DecidableEq, Repr

structure EntriesBody where
  account : String
  entries : List EntryBody
deriving DecidableEq, Repr

def optionalInt : Datum → Option Int
  | .int n => some n
  | _ => none

def optionalText : Datum → Option String
  | .text s => some s
  | _ => none

namespace AccountRequest

def fields : List Field :=
  [⟨"account_id", true, readOptional readInt64⟩, ⟨"initial_balance", true, readOptional readText⟩]

def read : Reader Datum := readRecord "AccountCreationRequest" fields

def ofDatum? : Datum → Option AccountRequest
  | .record [id, balance] => some ⟨optionalInt id, optionalText balance⟩
  | _ => none

end AccountRequest

namespace TransferRequest

def fields : List Field :=
  [⟨"source_account_id", true, readOptional readInt64⟩,
   ⟨"destination_account_id", true, readOptional readInt64⟩,
   ⟨"amount", true, readOptional readText⟩]

def read : Reader Datum := readRecord "TransactionRequest" fields

def ofDatum? : Datum → Option TransferRequest
  | .record [source, destination, amount] =>
    some ⟨optionalInt source, optionalInt destination, optionalText amount⟩
  | _ => none

end TransferRequest

def amountText (d : Decimal) : String := d.normalize.toText

namespace BalanceBody

def ofAccount (a : Account) : BalanceBody := ⟨toString a.id, amountText a.balance⟩

def fields : List Field := [⟨"account_id", false, readText⟩, ⟨"balance", false, readText⟩]

def read : Reader Datum := readRecord "BalanceResponse" fields

def ofDatum? : Datum → Option BalanceBody
  | .record [.text account, .text balance] => some ⟨account, balance⟩
  | _ => none

def toJson (b : BalanceBody) : String :=
  objectJson [("account_id", textJson b.account), ("balance", textJson b.balance)]

end BalanceBody

namespace EntryBody

def ofEntry (e : Entry) : EntryBody := ⟨e.id, amountText e.amount, e.created.withOffset⟩

def fields : List Field :=
  [⟨"entry_id", false, readInt64⟩, ⟨"amount", false, readText⟩, ⟨"created_at", false, readText⟩]

def read : Reader Datum := readRecord "EntryResponse" fields

def ofDatum? : Datum → Option EntryBody
  | .record [.int id, .text amount, .text created] => some ⟨id, amount, created⟩
  | _ => none

def toJson (e : EntryBody) : String :=
  objectJson [("entry_id", intJson e.id), ("amount", textJson e.amount),
    ("created_at", textJson e.created)]

end EntryBody

namespace EntriesBody

def ofEntries (account : AccountId) (entries : List Entry) : EntriesBody :=
  ⟨toString account, entries.map EntryBody.ofEntry⟩

def fields : List Field :=
  [⟨"account_id", false, readText⟩, ⟨"entries", false, readList EntryBody.read⟩]

def read : Reader Datum := readRecord "EntriesResponse" fields

def ofDatum? : Datum → Option EntriesBody
  | .record [.text account, .list entries] =>
    (entries.mapM EntryBody.ofDatum?).map fun entries => ⟨account, entries⟩
  | _ => none

def toJson (b : EntriesBody) : String :=
  objectJson [("account_id", textJson b.account), ("entries", listJson (b.entries.map EntryBody.toJson))]

end EntriesBody
end DoubleEntry.Http
