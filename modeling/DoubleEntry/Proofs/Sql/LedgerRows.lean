import DoubleEntry.Proofs.Ledger.Contract
import DoubleEntry.Proofs.Sql.Database

/-!
The two tables of the ledger as lists of typed rows, and what each of its statements does to them. Amounts stand
there as whole numbers of the smallest step, and rows that a client reads are decoded to what was written.
-/

set_option autoImplicit false

namespace DoubleEntry.Sql

open Time (Moment Stamp)

def IsWord (n : Int) : Prop := -2 ^ 63 ≤ n ∧ n < 2 ^ 63

structure AccountRow where
  id : Int
  steps : Int
  created : Moment
  modified : Moment

structure EntryRow where
  id : Int
  account : Int
  steps : Int
  created : Moment

structure LedgerRows where
  accounts : List AccountRow
  entries : List EntryRow

def AccountRow.tuple (r : AccountRow) : Tuple :=
  [(AccountColumn.id, .int r.id), (AccountColumn.balance, .numeric r.steps 5),
   (AccountColumn.created, .timestamp r.created), (AccountColumn.modified, .timestamp r.modified)]

def EntryRow.tuple (r : EntryRow) : Tuple :=
  [(EntryColumn.id, .int r.id), (EntryColumn.account, .int r.account), (EntryColumn.amount, .numeric r.steps 5),
   (EntryColumn.created, .timestamp r.created)]

def LedgerRows.tables (s : LedgerRows) : Tables := fun table =>
  if table = Sql.accounts then s.accounts.map AccountRow.tuple
  else if table = ledgerEntries then s.entries.map EntryRow.tuple
  else []

structure LedgerRows.Sound (s : LedgerRows) (drawn : Nat) : Prop where
  distinct : (s.accounts.map AccountRow.id).Nodup
  ids : ∀ r ∈ s.accounts, 0 < r.id ∧ IsWord r.id
  balances : ∀ r ∈ s.accounts, 0 ≤ r.steps ∧ r.steps < 10 ^ 28
  ascending : s.entries.Pairwise fun a b => a.id < b.id
  drawn : ∀ e ∈ s.entries, e.id ≤ drawn
  owned : ∀ e ∈ s.entries, e.account ∈ s.accounts.map AccountRow.id
  amounts : ∀ e ∈ s.entries, |e.steps| < 10 ^ 28

theorem sound_later (s : LedgerRows) (drawn later : Nat) (grown : drawn ≤ later) (sound : s.Sound drawn) : s.Sound later :=
  { sound with drawn := fun e member => (sound.drawn e member).trans (by exact_mod_cast grown) }

section Lookups

variable (r : AccountRow) (e : EntryRow) (s : LedgerRows)

@[simp] theorem account_row_id : r.tuple.lookup AccountColumn.id = some (.int r.id) := rfl
@[simp] theorem account_row_balance : r.tuple.lookup AccountColumn.balance = some (.numeric r.steps 5) := rfl
@[simp] theorem account_row_created : r.tuple.lookup AccountColumn.created = some (.timestamp r.created) := rfl
@[simp] theorem account_row_modified : r.tuple.lookup AccountColumn.modified = some (.timestamp r.modified) := rfl
@[simp] theorem entry_row_id : e.tuple.lookup EntryColumn.id = some (.int e.id) := rfl
@[simp] theorem entry_row_account : e.tuple.lookup EntryColumn.account = some (.int e.account) := rfl
@[simp] theorem entry_row_amount : e.tuple.lookup EntryColumn.amount = some (.numeric e.steps 5) := rfl
@[simp] theorem entry_row_created : e.tuple.lookup EntryColumn.created = some (.timestamp e.created) := rfl

@[simp] theorem ledger_rows_accounts : s.tables accounts = s.accounts.map AccountRow.tuple := rfl
@[simp] theorem ledger_rows_entries : s.tables ledgerEntries = s.entries.map EntryRow.tuple := rfl

theorem set_accounts (rows : List AccountRow) :
    s.tables.set accounts (rows.map AccountRow.tuple) = { s with accounts := rows }.tables := by
  funext table
  by_cases same : table = accounts
  · simp only [Tables.set, LedgerRows.tables, if_pos same]
  · simp only [Tables.set, LedgerRows.tables, if_neg same]

theorem set_entries (rows : List EntryRow) :
    s.tables.set ledgerEntries (rows.map EntryRow.tuple) = { s with entries := rows }.tables := by
  funext table
  by_cases same : table = ledgerEntries
  · subst same
    rfl
  · simp only [Tables.set, LedgerRows.tables, if_neg same]

@[simp] theorem same_int (a b : Int) : compared Value.same (some (.int a)) (some (.int b)) = decide (a = b) := by
  rw [Bool.eq_iff_iff]
  simp only [compared, Value.same, Value.le, Bool.and_eq_true, decide_eq_true_eq]
  omega

end Lookups

section Decoding

def decimalOf (steps : Int) : Decimal := (Decimal.of? (decide (steps < 0)) steps.natAbs 5).getD .zero

theorem decimal_cell (steps : Int) (small : |steps| < 10 ^ 28) :
    Value.cell? (.numeric steps 5) = some (.decimal (decimalOf steps)) ∧ (decimalOf steps).value = steps / 10 ^ 5 := by
  have fits : steps.natAbs < twoTo 96 := by
    have wide : (10 ^ 28 : ℤ) ≤ ((twoTo 96 : ℕ) : ℤ) := by
      simp only [twoTo, Nat.pow_eq]
      norm_num
    have cast : ((steps.natAbs : ℕ) : ℤ) < ((twoTo 96 : ℕ) : ℤ) := by
      rw [Int.natCast_natAbs]
      exact lt_of_lt_of_le small wide
    exact_mod_cast cast
  have made : Decimal.of? (decide (steps < 0)) steps.natAbs 5 =
      some ⟨decide (steps < 0), steps.natAbs, 5, fits, by decide⟩ := dif_pos ⟨fits, by decide⟩
  refine ⟨by simp only [Value.cell?, decimalOf, made, Option.map_some, Option.getD_some], ?_⟩
  have signed : Decimal.signed ⟨decide (steps < 0), steps.natAbs, 5, fits, by decide⟩ = steps := by
    simp only [Decimal.signed, decide_eq_true_eq]
    split <;> omega
  rw [decimalOf, made, Option.getD_some, Decimal.value, signed]

theorem cell_int (n : Int) : Value.cell? (.int n) = some (.int n) := rfl

theorem cell_timestamp (m : Moment) : Value.cell? (.timestamp m) = some (.timestamp m) := rfl

def AccountRow.account (r : AccountRow) : Account :=
  ⟨r.id, decimalOf r.steps, .moment r.created, .moment r.modified⟩

def EntryRow.entry (e : EntryRow) : Entry := ⟨e.id, e.account, decimalOf e.steps, .moment e.created⟩

theorem account_decoded (r : AccountRow) (small : |r.steps| < 10 ^ 28) :
    accountOfRow (shown AccountColumn.all r.tuple) = .ok r.account := by
  have cells : shown AccountColumn.all r.tuple =
      [(AccountColumn.id.name, .int r.id), (AccountColumn.balance.name, .decimal (decimalOf r.steps)),
       (AccountColumn.created.name, .timestamp r.created), (AccountColumn.modified.name, .timestamp r.modified)] := by
    simp only [shown, AccountColumn.all, List.filterMap_cons, List.filterMap_nil, account_row_id, account_row_balance,
      account_row_created, account_row_modified, Option.bind_some, cell_int, cell_timestamp,
      (decimal_cell r.steps small).1, Option.map_some]
  rw [cells]
  rfl

theorem entry_decoded (e : EntryRow) (small : |e.steps| < 10 ^ 28) :
    entryOfRow (shown EntryColumn.all e.tuple) = .ok e.entry := by
  have cells : shown EntryColumn.all e.tuple =
      [(EntryColumn.id.name, .int e.id), (EntryColumn.account.name, .int e.account),
       (EntryColumn.amount.name, .decimal (decimalOf e.steps)), (EntryColumn.created.name, .timestamp e.created)] := by
    simp only [shown, EntryColumn.all, List.filterMap_cons, List.filterMap_nil, entry_row_id, entry_row_account,
      entry_row_amount, entry_row_created, Option.bind_some, cell_int, cell_timestamp, (decimal_cell e.steps small).1,
      Option.map_some]
  rw [cells]
  rfl

end Decoding

section Constraints

variable (s : LedgerRows) (drawn : Nat)

theorem accounts_keyed : accountsDef.isKeyed (s.accounts.map AccountRow.tuple) = true ↔
    (s.accounts.map AccountRow.id).Nodup := by
  simp only [TableDef.isKeyed, decide_eq_true_eq, accountsDef, List.Nodup, List.pairwise_map, account_row_id, same_int,
    decide_eq_false_iff_not, ne_eq]

theorem accounts_checks (positive : ∀ r ∈ s.accounts, 0 < r.id) (nonneg : ∀ r ∈ s.accounts, 0 ≤ r.steps) :
    (accountsDef.checks.find? fun check => !(s.accounts.map AccountRow.tuple).all check.holds) = none := by
  rw [List.find?_eq_none]
  intro check member
  rw [Bool.not_eq_true, Bool.not_eq_false', List.all_map, List.all_eq_true]
  intro r inside
  simp only [accountsDef, List.mem_cons, List.not_mem_nil, or_false] at member
  rcases member with rfl | rfl
  · simpa [Check.holds] using positive r inside
  · simpa [Check.holds] using nonneg r inside

theorem accounts_violation (positive : ∀ r ∈ s.accounts, 0 < r.id) (nonneg : ∀ r ∈ s.accounts, 0 ≤ r.steps) :
    accountsDef.violation? s.tables =
      if (s.accounts.map AccountRow.id).Nodup then none else some (.unique accounts) := by
  have table : s.tables accountsDef.table = s.accounts.map AccountRow.tuple := rfl
  simp only [TableDef.violation?, table, accounts_checks s positive nonneg]
  by_cases distinct : (s.accounts.map AccountRow.id).Nodup
  · rw [if_pos distinct, (accounts_keyed s).mpr distinct]
    rfl
  · rw [if_neg distinct, eq_false_of_ne_true (mt (accounts_keyed s).mp distinct)]
    rfl

theorem low_refused (r : AccountRow) (member : r ∈ s.accounts) (low : ¬ 0 < r.id) :
    sound s.tables = .error (.check accounts "chk_account_id_positive") := by
  have broken : (s.accounts.map AccountRow.tuple).all
      (Check.holds ⟨"chk_account_id_positive", AccountColumn.id, true⟩) = false := by
    rw [List.all_map, List.all_eq_false]
    exact ⟨r, member, by simpa [Check.holds] using Int.not_lt.mp low⟩
  have found : accountsDef.violation? s.tables = some (.check accounts "chk_account_id_positive") := by
    have table : s.tables accountsDef.table = s.accounts.map AccountRow.tuple := rfl
    simp only [TableDef.violation?, table]
    simp only [accountsDef, List.find?_cons, broken, Bool.not_false]
  simp only [sound, schema, List.findSome?_cons, found]

theorem taken_refused (positive : ∀ r ∈ s.accounts, 0 < r.id) (nonneg : ∀ r ∈ s.accounts, 0 ≤ r.steps)
    (taken : ¬ (s.accounts.map AccountRow.id).Nodup) : sound s.tables = .error (.unique accounts) := by
  have found := accounts_violation s positive nonneg
  rw [if_neg taken] at found
  simp only [sound, schema, List.findSome?_cons, found]

theorem entries_violation (ascending : s.entries.Pairwise fun a b => a.id < b.id)
    (owned : ∀ e ∈ s.entries, e.account ∈ s.accounts.map AccountRow.id) :
    ledgerEntriesDef.violation? s.tables = none := by
  have keyed : ledgerEntriesDef.isKeyed (s.entries.map EntryRow.tuple) = true := by
    simp only [TableDef.isKeyed, decide_eq_true_eq, ledgerEntriesDef, List.pairwise_map, entry_row_id, same_int,
      decide_eq_false_iff_not]
    exact ascending.imp fun less => Int.ne_of_lt less
  have refers : (s.entries.map EntryRow.tuple).all
      (fun row => TableDef.refers s.tables row (EntryColumn.account, AccountColumn.id)) = true := by
    rw [List.all_map, List.all_eq_true]
    intro e member
    obtain ⟨r, inside, same⟩ := List.mem_map.mp (owned e member)
    simp only [Function.comp_apply, TableDef.refers, List.any_eq_true]
    exact ⟨r.tuple, List.mem_map_of_mem inside, by simp [same]⟩
  have table : s.tables ledgerEntriesDef.table = s.entries.map EntryRow.tuple := rfl
  simp only [TableDef.violation?, table, keyed]
  simp only [ledgerEntriesDef, List.find?_cons, List.find?_nil, refers]
  rfl

theorem sound_ledger_rows (isSound : s.Sound drawn) : sound s.tables = .ok s.tables := by
  have ofAccounts := accounts_violation s (fun r member => (isSound.ids r member).1)
    fun r member => (isSound.balances r member).1
  rw [if_pos isSound.distinct] at ofAccounts
  have ofEntries := entries_violation s isSound.ascending isSound.owned
  simp only [sound, schema, List.findSome?_cons, ofAccounts, ofEntries, List.findSome?_nil]

end Constraints

end DoubleEntry.Sql
