import DoubleEntry.Sql.Statement

/-!
The two tables of the ledger. Accounts have a positive id and a balance that is not negative; an entry belongs
to an account.
-/

set_option autoImplicit false

namespace DoubleEntry.Sql

def accounts : Table := ⟨"accounts"⟩
def ledgerEntries : Table := ⟨"ledger_entries"⟩

namespace AccountColumn

def id : Column := ⟨accounts, "account_id"⟩
def balance : Column := ⟨accounts, "balance"⟩
def created : Column := ⟨accounts, "created_date"⟩
def modified : Column := ⟨accounts, "last_modified_date"⟩
def all : List Column := [id, balance, created, modified]

end AccountColumn

namespace EntryColumn

def id : Column := ⟨ledgerEntries, "entry_id"⟩
def account : Column := ⟨ledgerEntries, "account_id"⟩
def amount : Column := ⟨ledgerEntries, "amount"⟩
def created : Column := ⟨ledgerEntries, "created_date"⟩
def all : List Column := [id, account, amount, created]

end EntryColumn

inductive Multiplicity where
  | one
  | many
deriving DecidableEq, Repr

def Multiplicity.name : Multiplicity → String
  | one => "HasOne"
  | many => "HasMany"

def Multiplicity.reverse : Multiplicity → Multiplicity
  | one => many
  | many => one

structure Relation where
  multiplicity : Multiplicity
  isOwner : Bool
  source : Column
  target : Column
deriving DecidableEq, Repr

def Relation.reverse (r : Relation) : Relation :=
  ⟨r.multiplicity.reverse, !r.isOwner, r.target, r.source⟩

def entriesOfAccount : Relation := ⟨.many, true, AccountColumn.id, EntryColumn.account⟩
def accountOfEntry : Relation := ⟨.one, false, EntryColumn.account, AccountColumn.id⟩

def aliasText (mark : String) (c : Column) : String :=
  c.text .qualified ++ " AS " ++ quoted (mark ++ "_" ++ c.name)

def joinText (columns others : List Column) (r : Relation) : String :=
  "SELECT " ++ Statement.commaList (columns.map (aliasText "A") ++ others.map (aliasText "B")) ++
    " FROM " ++ quoted r.source.table.name ++ " LEFT JOIN " ++ quoted r.target.table.name ++ " ON " ++
    r.source.text .qualified ++ " = " ++ r.target.text .qualified

def accountsWithEntries : String := joinText AccountColumn.all EntryColumn.all entriesOfAccount
def entriesWithAccount : String := joinText EntryColumn.all AccountColumn.all accountOfEntry

end DoubleEntry.Sql
