import DoubleEntry.Proofs.Sql.LedgerRows

/-!
What each statement of the ledger does to the two tables, and what its reply is decoded to.
-/

set_option autoImplicit false

namespace DoubleEntry.Sql

open Time (Moment Stamp)

namespace LedgerRows

def find (s : LedgerRows) (id : AccountId) : Option AccountRow := s.accounts.find? fun r => decide (r.id = id)

def change (s : LedgerRows) (id : AccountId) (f : AccountRow → AccountRow) : LedgerRows :=
  { s with accounts := s.accounts.map fun r => if r.id = id then f r else r }

def position (s : LedgerRows) : Position :=
  { balance := fun id => (s.find id).map fun r => r.steps / 10 ^ 5
    entries := fun id => (s.entries.filter fun e => decide (e.account = id)).map fun e => e.steps / 10 ^ 5 }

end LedgerRows

section Statements

variable (s : LedgerRows) (drawn : Nat) (isSound : s.Sound drawn) (now : Moment) (number : Nat)

section Reads

include isSound

theorem small_balance (r : AccountRow) (member : r ∈ s.accounts) : |r.steps| < 10 ^ 28 := by
  obtain ⟨nonneg, below⟩ := isSound.balances r member
  rw [abs_of_nonneg nonneg]
  exact below

theorem account_selected (id : AccountId) : ∃ rows count,
    s.tables.execute now number (selectAccount id) = .ok ⟨s.tables, rows, count⟩ ∧
      firstRow accountOfRow rows = .ok ((s.find id).map AccountRow.account) := by
  refine ⟨_, _, rfl, ?_⟩
  have chosen : (s.tables accounts).filter (meets now [.equals AccountColumn.id (.bigint id)]) =
      (s.accounts.filter fun r => decide (r.id = id)).map AccountRow.tuple := by
    rw [ledger_rows_accounts, List.filter_map]
    congr 2
    funext r
    simp [meets, Condition.holds, Param.value?]
  simp only [sorted, limited, chosen]
  rw [LedgerRows.find, ← List.head?_filter]
  cases found : s.accounts.filter fun r => decide (r.id = id) with
  | nil => rfl
  | cons r rest =>
      have member : r ∈ s.accounts := (List.mem_filter.mp (found ▸ List.mem_cons_self)).1
      simp only [List.map_cons, List.take_succ_cons, List.take_zero, List.map_nil, firstRow, List.head?_cons,
        Option.map_some, account_decoded r (small_balance s drawn isSound r member)]
      rfl

theorem entries_sorted (id : AccountId) :
    sorted (some EntryColumn.id) ((s.entries.filter fun e => decide (e.account = id)).map EntryRow.tuple) =
      (s.entries.filter fun e => decide (e.account = id)).map EntryRow.tuple := by
  apply List.mergeSort_of_pairwise
  rw [List.pairwise_map]
  refine (isSound.ascending.filter _).imp ?_
  intro first second less
  simpa [compared, Value.le] using Int.le_of_lt less

theorem entries_selected (id : AccountId) : ∃ rows count,
    s.tables.execute now number (selectEntries id) = .ok ⟨s.tables, rows, count⟩ ∧
      rows.mapM entryOfRow = .ok ((s.entries.filter fun e => decide (e.account = id)).map EntryRow.entry) := by
  refine ⟨_, _, rfl, ?_⟩
  have chosen : (s.tables ledgerEntries).filter (meets now [.equals EntryColumn.account (.bigint id)]) =
      (s.entries.filter fun e => decide (e.account = id)).map EntryRow.tuple := by
    rw [ledger_rows_entries, List.filter_map]
    congr 2
    funext e
    simp [meets, Condition.holds, Param.value?]
  simp only [limited, chosen, entries_sorted s drawn isSound id, List.map_map, List.mapM_map]
  apply all_done
  intro e member
  exact entry_decoded e (isSound.amounts e (List.mem_filter.mp member).1)

theorem accounts_selected (a b : AccountId) : ∃ rows count,
    s.tables.execute now number (selectAccounts [a, b]) = .ok ⟨s.tables, rows, count⟩ ∧
      rows.mapM accountOfRow = .ok ((s.accounts.filter fun r => [a, b].contains r.id).map AccountRow.account) := by
  refine ⟨_, _, rfl, ?_⟩
  have chosen : (s.tables accounts).filter (meets now [.among AccountColumn.id ([a, b].map Param.bigint)]) =
      (s.accounts.filter fun r => [a, b].contains r.id).map AccountRow.tuple := by
    rw [ledger_rows_accounts, List.filter_map]
    congr 2
    funext r
    simp [meets, Condition.holds, Param.value?]
  simp only [sorted, limited, chosen, List.map_map, List.mapM_map]
  apply all_done
  intro r member
  exact account_decoded r (small_balance s drawn isSound r (List.mem_filter.mp member).1)

end Reads

section Rows

theorem keep_word (n : Int) (word : IsWord n) : ColumnType.keep .bigint (.int n) = .ok (.int n) := by
  have bounds : -(twoTo 63 : Int) ≤ n ∧ n < (twoTo 63 : Int) := by
    simpa [twoTo, IsWord] using word
  simp only [ColumnType.keep, if_pos bounds]

theorem keep_steps (n : Int) (small : |n| < 10 ^ 28) :
    ColumnType.keep (.numeric 30 5) (.numeric n 5) = .ok (.numeric n 5) := by
  have same : rescaled n 5 5 = n := by simp [rescaled, tenTo]
  have fits : n.natAbs < tenTo 30 := by
    have bound : (10 ^ 28 : ℕ) ≤ tenTo 30 := by
      simp only [tenTo, Nat.pow_eq]
      norm_num
    have bounds := abs_lt.mp small
    omega
  simp only [ColumnType.keep, same, if_pos fits]

theorem account_row (values : ColumnDef → Option Value) (r : AccountRow) (word : IsWord r.id)
    (small : |r.steps| < 10 ^ 28)
    (same : ∀ c ∈ accountsDef.columns, values c = r.tuple.lookup c.column) : accountsDef.row values = .ok r.tuple := by
  simp only [accountsDef, List.mem_cons, List.not_mem_nil, or_false, forall_eq_or_imp, forall_eq, account_row_id,
    account_row_balance, account_row_created, account_row_modified] at same
  obtain ⟨id, balance, created, modified⟩ := same
  simp only [TableDef.row, accountsDef, List.mapM_cons, List.mapM_nil, id, balance, created, modified,
    keep_word r.id word, keep_steps r.steps small]
  rfl

theorem entry_row (values : ColumnDef → Option Value) (e : EntryRow) (word : IsWord e.account)
    (small : |e.steps| < 10 ^ 28) (same : ∀ c ∈ ledgerEntriesDef.columns, values c = e.tuple.lookup c.column) :
    ledgerEntriesDef.row values = .ok e.tuple := by
  simp only [ledgerEntriesDef, List.mem_cons, List.not_mem_nil, or_false, forall_eq_or_imp, forall_eq, entry_row_id,
    entry_row_account, entry_row_amount, entry_row_created] at same
  obtain ⟨id, account, amount, created⟩ := same
  simp only [TableDef.row, ledgerEntriesDef, List.mapM_cons, List.mapM_nil, id, account, amount, created,
    keep_word e.account word, keep_steps e.steps small]
  rfl

end Rows

section Inserts

variable (amount : Decimal) (money : amount.IsMoney) (id : AccountId) (word : IsWord id) (time : Moment)

def newAccount : AccountRow := ⟨id, amount.signed, time, time⟩

def newEntry : EntryRow := ⟨number, id, amount.signed, time⟩

include money word in
theorem account_inserted :
    s.tables.execute now number (insertAccount ⟨id, amount, .moment time, .moment time⟩) =
      (sound { s with accounts := s.accounts ++ [newAccount amount id time] }.tables).map fun tables =>
        ⟨tables, [shown AccountColumn.all (newAccount amount id time).tuple], 1⟩ := by
  have made : accountsDef.row (given now number
      [(AccountColumn.id, .bigint id), (AccountColumn.balance, .decimal amount),
       (AccountColumn.created, .timestamp (.moment time)), (AccountColumn.modified, .timestamp (.moment time))]) =
      .ok (newAccount amount id time).tuple := by
    refine account_row _ _ word (Decimal.money_signed amount money).2 ?_
    simp only [accountsDef, List.mem_cons, List.not_mem_nil, or_false, forall_eq_or_imp, forall_eq]
    refine ⟨rfl, ?_, rfl, rfl⟩
    change some (Value.numeric amount.signed amount.scale) = some (.numeric amount.signed 5)
    rw [money.scale]
  have placed : s.tables.set accounts (s.tables accounts ++ [(newAccount amount id time).tuple]) =
      { s with accounts := s.accounts ++ [newAccount amount id time] }.tables := by
    have set := set_accounts s (s.accounts ++ [newAccount amount id time])
    rw [List.map_append] at set
    exact set
  change (accountsDef.row _ >>= fun row => _) = _
  rw [made]
  change
    (sound (s.tables.set accounts (s.tables accounts ++ [(newAccount amount id time).tuple])) >>= fun after => _) = _
  rw [placed]
  cases sound { s with accounts := s.accounts ++ [newAccount amount id time] }.tables <;> rfl

include money word in
theorem entry_inserted :
    s.tables.execute now number (insertEntry ⟨id, amount, .moment time⟩) =
      (sound { s with entries := s.entries ++ [newEntry number amount id time] }.tables).map fun tables =>
        ⟨tables, [shown EntryColumn.all (newEntry number amount id time).tuple], 1⟩ := by
  have made : ledgerEntriesDef.row (given now number
      [(EntryColumn.account, .bigint id), (EntryColumn.amount, .decimal amount),
       (EntryColumn.created, .timestamp (.moment time))]) = .ok (newEntry number amount id time).tuple := by
    refine entry_row _ _ word (Decimal.money_signed amount money).2 ?_
    simp only [ledgerEntriesDef, List.mem_cons, List.not_mem_nil, or_false, forall_eq_or_imp, forall_eq]
    refine ⟨rfl, rfl, ?_, rfl⟩
    change some (Value.numeric amount.signed amount.scale) = some (.numeric amount.signed 5)
    rw [money.scale]
  have placed : s.tables.set ledgerEntries (s.tables ledgerEntries ++ [(newEntry number amount id time).tuple]) =
      { s with entries := s.entries ++ [newEntry number amount id time] }.tables := by
    have set := set_entries s (s.entries ++ [newEntry number amount id time])
    rw [List.map_append] at set
    exact set
  change (ledgerEntriesDef.row _ >>= fun row => _) = _
  rw [made]
  change (sound (s.tables.set ledgerEntries (s.tables ledgerEntries ++ [(newEntry number amount id time).tuple])) >>=
    fun after => _) = _
  rw [placed]
  cases sound { s with entries := s.entries ++ [newEntry number amount id time] }.tables <;> rfl

end Inserts

section Updates

variable (amount : Decimal) (money : amount.IsMoney) (id : AccountId) (time : Moment)

theorem accounts_updated (assignments : List Assignment) (conditions : List Condition) (chosen : AccountRow → Bool)
    (f : AccountRow → AccountRow) (meeting : ∀ r, meets now conditions r.tuple = chosen r)
    (made : ∀ r ∈ s.accounts, chosen r = true →
      accountsDef.row (updated now assignments r.tuple) = .ok (f r).tuple) :
    s.tables.execute now number (.update accounts assignments conditions) =
      (sound { s with accounts := s.accounts.map fun r => if chosen r then f r else r }.tables).map fun tables =>
        ⟨tables, [], s.accounts.countP chosen⟩ := by
  have rows : (s.tables accounts).mapM (fun row =>
      if meets now conditions row then accountsDef.row (updated now assignments row) else .ok row) =
      .ok ((s.accounts.map fun r => if chosen r then f r else r).map AccountRow.tuple) := by
    rw [ledger_rows_accounts, List.mapM_map, List.map_map]
    apply all_done
    intro r member
    simp only [Function.comp_apply, meeting]
    cases choice : chosen r with
    | true => exact made r member choice
    | false => rfl
  have count : (s.tables accounts).countP (meets now conditions) = s.accounts.countP chosen := by
    rw [ledger_rows_accounts, List.countP_map]
    congr 1
    funext r
    exact meeting r
  change ((s.tables accounts).mapM _ >>= fun rows => _) = _
  rw [rows]
  change (sound (s.tables.set accounts _) >>= fun after => _) = _
  rw [set_accounts, count]
  cases sound { s with accounts := s.accounts.map fun r => if chosen r then f r else r }.tables <;> rfl

def AccountRow.shift (steps : Int) (time : Moment) (r : AccountRow) : AccountRow :=
  { r with steps := r.steps + steps, modified := time }

include money in
theorem steps_changed (sign : Int) (r : AccountRow) :
    Assignment.assigned?.changed now r.tuple AccountColumn.balance sign (.decimal amount) =
      some (.numeric (r.steps + sign * amount.signed) 5) := by
  change some (Value.numeric (r.steps * tenTo (max 5 amount.scale - 5) +
    sign * amount.signed * tenTo (max 5 amount.scale - amount.scale)) (max 5 amount.scale)) = _
  simp [money.scale, tenTo]

include money in
theorem balance_changed (sign : Int) (change : Assignment) (r : AccountRow) (word : IsWord r.id)
    (small : |r.steps + sign * amount.signed| < 10 ^ 28)
    (changes : ∀ column, change.assigned? now r.tuple column =
      if AccountColumn.balance = column then
        some (Assignment.assigned?.changed now r.tuple column sign (.decimal amount)) else none) :
    accountsDef.row (updated now [change, .set AccountColumn.modified (.timestampUtc (.moment time))] r.tuple) =
      .ok (r.shift (sign * amount.signed) time).tuple := by
  refine account_row _ (r.shift (sign * amount.signed) time) word small ?_
  simp only [accountsDef, List.mem_cons, List.not_mem_nil, or_false, forall_eq_or_imp, forall_eq, updated,
    List.findSome?_cons, changes]
  refine ⟨rfl, ?_, rfl, rfl⟩
  rw [if_pos trivial, steps_changed now amount money sign r]
  rfl

theorem find_row (r : AccountRow) (found : s.find id = some r) : r ∈ s.accounts ∧ r.id = id :=
  ⟨List.mem_of_find?_eq_some found, by simpa using List.find?_some found⟩

theorem change_ids (f : AccountRow → AccountRow) (kept : ∀ r, (f r).id = r.id) :
    (s.change id f).accounts.map AccountRow.id = s.accounts.map AccountRow.id := by
  rw [LedgerRows.change, List.map_map]
  apply List.map_congr_left
  intro r _
  simp only [Function.comp_apply]
  split
  · exact kept r
  · rfl

include isSound

theorem only_row (r other : AccountRow) (found : s.find id = some r) (member : other ∈ s.accounts)
    (same : other.id = id) : other = r := by
  obtain ⟨inside, own⟩ := find_row s id r found
  exact List.inj_on_of_nodup_map isSound.distinct member inside (same.trans own.symm)

theorem change_sound (f : AccountRow → AccountRow) (kept : ∀ r, (f r).id = r.id) (r : AccountRow)
    (found : s.find id = some r) (nonneg : 0 ≤ (f r).steps) (below : (f r).steps < 10 ^ 28) :
    (s.change id f).Sound drawn := by
  have ids := change_ids s id f kept
  have rows : ∀ x ∈ (s.change id f).accounts, ∃ old ∈ s.accounts, x.id = old.id ∧
      (x = f r ∨ x.steps = old.steps) := by
    intro x member
    obtain ⟨old, oldMember, changed⟩ := List.mem_map.mp member
    refine ⟨old, oldMember, ?_⟩
    by_cases own : old.id = id
    · rw [if_pos own] at changed
      rw [← changed, kept, only_row s drawn isSound id r old found oldMember own]
      exact ⟨rfl, .inl rfl⟩
    · rw [if_neg own] at changed
      rw [← changed]
      exact ⟨rfl, .inr rfl⟩
  refine ⟨?_, ?_, ?_, isSound.ascending, isSound.drawn, ?_, isSound.amounts⟩
  · rw [ids]
    exact isSound.distinct
  · intro x member
    obtain ⟨old, oldMember, same, _⟩ := rows x member
    rw [same]
    exact isSound.ids old oldMember
  · intro x member
    obtain ⟨old, oldMember, _, rfl | same⟩ := rows x member
    · exact ⟨nonneg, below⟩
    · rw [same]
      exact isSound.balances old oldMember
  · rw [ids]
    exact isSound.owned

theorem one_chosen (r : AccountRow) (found : s.find id = some r) (chosen : AccountRow → Bool)
    (choice : ∀ x ∈ s.accounts, chosen x = true ↔ x.id = id) : s.accounts.countP chosen = 1 := by
  obtain ⟨inside, own⟩ := find_row s id r found
  have count : s.accounts.countP chosen = (s.accounts.map AccountRow.id).count id := by
    rw [List.count, List.countP_map]
    apply List.countP_congr
    intro x member
    rw [choice x member]
    simp
  rw [count]
  refine List.count_eq_one_of_mem isSound.distinct ?_
  rw [← own]
  exact List.mem_map_of_mem inside

include money

theorem balance_updated (sign : Int) (change : Assignment) (conditions : List Condition) (r : AccountRow)
    (found : s.find id = some r) (nonneg : 0 ≤ r.steps + sign * amount.signed)
    (below : r.steps + sign * amount.signed < 10 ^ 28)
    (changes : ∀ (row : AccountRow) (column : Column), change.assigned? now row.tuple column =
      if AccountColumn.balance = column then
        some (Assignment.assigned?.changed now row.tuple column sign (.decimal amount)) else none)
    (chosen : AccountRow → Bool) (meeting : ∀ x, meets now conditions x.tuple = chosen x)
    (choice : ∀ x ∈ s.accounts, chosen x = true ↔ x.id = id) :
    s.tables.execute now number (.update accounts
        [change, .set AccountColumn.modified (.timestampUtc (.moment time))] conditions) =
      .ok ⟨(s.change id (AccountRow.shift (sign * amount.signed) time)).tables, [], 1⟩ ∧
      (s.change id (AccountRow.shift (sign * amount.signed) time)).Sound drawn := by
  have later := change_sound s drawn isSound id (AccountRow.shift (sign * amount.signed) time) (fun _ => rfl) r found
    nonneg below
  refine ⟨?_, later⟩
  have executed := accounts_updated s now number
    [change, .set AccountColumn.modified (.timestampUtc (.moment time))] conditions chosen
    (AccountRow.shift (sign * amount.signed) time) meeting ?_
  · have same : (s.accounts.map fun x => if chosen x then x.shift (sign * amount.signed) time else x) =
        (s.change id (AccountRow.shift (sign * amount.signed) time)).accounts := by
      apply List.map_congr_left
      intro x member
      simp only [choice x member]
    rw [executed, same, one_chosen s drawn isSound id r found chosen choice]
    change (sound (s.change id _).tables).map _ = _
    rw [sound_ledger_rows _ drawn later]
    rfl
  · intro x member choiceOf
    have own := (choice x member).mp choiceOf
    have same := only_row s drawn isSound id r x found member own
    subst same
    refine balance_changed now amount money time sign change x (isSound.ids x member).2 ?_ (changes x)
    rw [abs_of_nonneg nonneg]
    exact below

omit isSound in
theorem debit_meets (x : AccountRow) :
    meets now [.equals AccountColumn.id (.bigint id), .atLeast AccountColumn.balance (.decimal amount)] x.tuple =
      (decide (x.id = id) && decide (amount.signed ≤ x.steps)) := by
  have covered : compared Value.le (some (.numeric amount.signed amount.scale)) (some (.numeric x.steps 5)) =
      decide (amount.signed ≤ x.steps) := by
    rw [money.scale]
    simp only [compared, Value.le, decide_eq_decide]
    exact Int.mul_le_mul_right (by exact_mod_cast ten_to_pos 5)
  simp only [meets, List.all_cons, List.all_nil, Bool.and_true, Condition.holds, account_row_id, account_row_balance,
    Param.value?, same_int, covered]

theorem debit_executed (r : AccountRow) (found : s.find id = some r) (nonneg : 0 ≤ amount.signed)
    (covered : amount.signed ≤ r.steps) :
    s.tables.execute now number (debit id amount (.moment time)) =
      .ok ⟨(s.change id (AccountRow.shift (-1 * amount.signed) time)).tables, [], 1⟩ ∧
      (s.change id (AccountRow.shift (-1 * amount.signed) time)).Sound drawn := by
  obtain ⟨inside, _⟩ := find_row s id r found
  have bounds := isSound.balances r inside
  refine balance_updated s drawn isSound now number amount money id time (-1) _ _ r found (by omega) (by omega)
    (fun _ _ => rfl) _ (debit_meets now amount money id) ?_
  intro x member
  rw [Bool.and_eq_true, decide_eq_true_eq, decide_eq_true_eq]
  refine ⟨And.left, fun own => ⟨own, ?_⟩⟩
  rw [only_row s drawn isSound id r x found member own]
  exact covered

theorem debit_passed (r : AccountRow) (found : s.find id = some r) (short : r.steps < amount.signed) :
    s.tables.execute now number (debit id amount (.moment time)) = .ok ⟨s.tables, [], 0⟩ := by
  have none : ∀ x ∈ s.accounts, (decide (x.id = id) && decide (amount.signed ≤ x.steps)) = false := by
    intro x member
    by_cases own : x.id = id
    · rw [only_row s drawn isSound id r x found member own]
      simpa using fun _ => short
    · simp [own]
  have executed := accounts_updated s now number
    [.decrease AccountColumn.balance (.decimal amount), .set AccountColumn.modified (.timestampUtc (.moment time))] _ _
    (AccountRow.shift (-1 * amount.signed) time) (debit_meets now amount money id)
    fun x member chosen => by rw [none x member] at chosen; cases chosen
  have rows : (s.accounts.map fun x => if (decide (x.id = id) && decide (amount.signed ≤ x.steps)) then
      x.shift (-1 * amount.signed) time else x) = s.accounts := by
    refine (List.map_congr_left ?_).trans (List.map_id _)
    intro x member
    rw [none x member]
    rfl
  have count : s.accounts.countP (fun x => decide (x.id = id) && decide (amount.signed ≤ x.steps)) = 0 :=
    List.countP_eq_zero.mpr fun x member => by rw [none x member]; exact Bool.false_ne_true
  rw [rows, count] at executed
  refine Eq.trans executed ?_
  change (sound s.tables).map _ = _
  rw [sound_ledger_rows s drawn isSound]
  rfl

theorem credit_executed (r : AccountRow) (found : s.find id = some r) (nonneg : 0 ≤ amount.signed)
    (room : r.steps + amount.signed < 10 ^ 28) :
    s.tables.execute now number (credit id amount (.moment time)) =
      .ok ⟨(s.change id (AccountRow.shift (1 * amount.signed) time)).tables, [], 1⟩ ∧
      (s.change id (AccountRow.shift (1 * amount.signed) time)).Sound drawn := by
  obtain ⟨inside, _⟩ := find_row s id r found
  have bounds := isSound.balances r inside
  refine balance_updated s drawn isSound now number amount money id time 1 _ _ r found (by omega) (by omega)
    (fun _ _ => rfl) (fun x => decide (x.id = id)) ?_ ?_
  · intro x
    simp only [meets, List.all_cons, List.all_nil, Bool.and_true, Condition.holds, account_row_id, Param.value?,
      same_int]
  · intro x _
    exact decide_eq_true_iff

end Updates

section Growth

variable (amount : Decimal) (money : amount.IsMoney) (id : AccountId) (word : IsWord id) (time : Moment)

include isSound money word

omit isSound in
theorem create_low (low : id < 1) :
    s.tables.execute now number (insertAccount ⟨id, amount, .moment time, .moment time⟩) =
      .error (.check accounts "chk_account_id_positive") := by
  have lowRow : ¬ 0 < (newAccount amount id time).id := Int.not_lt.mpr (Int.lt_add_one_iff.mp low)
  rw [account_inserted s now number amount money id word time,
    low_refused _ _ (List.mem_append_right _ List.mem_cons_self) lowRow]
  rfl

theorem create_taken (high : ¬ id < 1) (nonneg : 0 ≤ amount.signed) (r : AccountRow) (found : s.find id = some r) :
    s.tables.execute now number (insertAccount ⟨id, amount, .moment time, .moment time⟩) = .error (.unique accounts) := by
  obtain ⟨inside, own⟩ := find_row s id r found
  rw [account_inserted s now number amount money id word time, taken_refused]
  · rfl
  · intro x member
    rcases List.mem_append.mp member with old | new
    · exact (isSound.ids x old).1
    · rw [List.mem_singleton.mp new]
      exact Int.lt_of_lt_of_le Int.zero_lt_one (Int.not_lt.mp high)
  · intro x member
    rcases List.mem_append.mp member with old | new
    · exact (isSound.balances x old).1
    · rw [List.mem_singleton.mp new]
      exact nonneg
  · rw [List.map_append, List.nodup_append]
    rintro ⟨_, _, apart⟩
    exact apart r.id (List.mem_map_of_mem inside) id (List.mem_singleton.mpr rfl) own

theorem create_executed (high : ¬ id < 1) (nonneg : 0 ≤ amount.signed) (free : s.find id = none) :
    s.tables.execute now number (insertAccount ⟨id, amount, .moment time, .moment time⟩) =
      .ok ⟨({ s with accounts := s.accounts ++ [newAccount amount id time] } : LedgerRows).tables,
        [shown AccountColumn.all (newAccount amount id time).tuple], 1⟩ ∧
      LedgerRows.Sound { s with accounts := s.accounts ++ [newAccount amount id time] } drawn := by
  have small := abs_lt.mp (Decimal.money_signed amount money).2
  have later : LedgerRows.Sound { s with accounts := s.accounts ++ [newAccount amount id time] } drawn := by
    refine ⟨?_, ?_, ?_, isSound.ascending, isSound.drawn, ?_, isSound.amounts⟩
    · rw [List.map_append, List.nodup_append]
      refine ⟨isSound.distinct, List.pairwise_singleton _ _, ?_⟩
      intro old oldMember new newMember same
      obtain ⟨r, member, rfl⟩ := List.mem_map.mp oldMember
      have own : r.id = id := same.trans (List.mem_singleton.mp newMember)
      exact absurd own (by simpa using List.find?_eq_none.mp free r member)
    · intro x member
      rcases List.mem_append.mp member with old | new
      · exact isSound.ids x old
      · rw [List.mem_singleton.mp new]
        exact ⟨Int.lt_of_lt_of_le Int.zero_lt_one (Int.not_lt.mp high), word⟩
    · intro x member
      rcases List.mem_append.mp member with old | new
      · exact isSound.balances x old
      · rw [List.mem_singleton.mp new]
        exact ⟨nonneg, small.2⟩
    · intro e member
      rw [List.map_append]
      exact List.mem_append_left _ (isSound.owned e member)
  rw [account_inserted s now number amount money id word time, sound_ledger_rows _ drawn later]
  exact ⟨rfl, later⟩

theorem append_executed (next : number = drawn + 1) (r : AccountRow) (found : s.find id = some r) :
    s.tables.execute now number (insertEntry ⟨id, amount, .moment time⟩) =
      .ok ⟨({ s with entries := s.entries ++ [newEntry number amount id time] } : LedgerRows).tables,
        [shown EntryColumn.all (newEntry number amount id time).tuple], 1⟩ ∧
      LedgerRows.Sound { s with entries := s.entries ++ [newEntry number amount id time] } number := by
  subst next
  obtain ⟨inside, own⟩ := find_row s id r found
  have later : LedgerRows.Sound { s with entries := s.entries ++ [newEntry (drawn + 1) amount id time] } (drawn + 1) := by
    refine ⟨isSound.distinct, isSound.ids, isSound.balances, ?_, ?_, ?_, ?_⟩
    · rw [List.pairwise_append]
      refine ⟨isSound.ascending, List.pairwise_singleton _ _, ?_⟩
      intro old oldMember new newMember
      rw [List.mem_singleton.mp newMember]
      exact Int.lt_of_le_of_lt (isSound.drawn old oldMember) (by simp [newEntry])
    · intro e member
      rcases List.mem_append.mp member with old | new
      · exact (isSound.drawn e old).trans (by simp)
      · rw [List.mem_singleton.mp new]
        exact le_refl _
    · intro e member
      rcases List.mem_append.mp member with old | new
      · exact isSound.owned e old
      · rw [List.mem_singleton.mp new]
        change id ∈ s.accounts.map AccountRow.id
        rw [← own]
        exact List.mem_map_of_mem inside
    · intro e member
      rcases List.mem_append.mp member with old | new
      · exact isSound.amounts e old
      · rw [List.mem_singleton.mp new]
        exact (Decimal.money_signed amount money).2
  rw [entry_inserted s now (drawn + 1) amount money id word time, sound_ledger_rows _ (drawn + 1) later]
  exact ⟨rfl, later⟩

end Growth

section Positions

variable (amount : Decimal) (money : amount.IsMoney) (id : AccountId) (time : Moment)

include money

theorem shift_position (sign : Int) (r : AccountRow) (found : s.find id = some r) :
    (s.change id (AccountRow.shift (sign * amount.signed) time)).position =
      s.position.put id ((r.steps : ℚ) / 10 ^ 5 + sign * amount.value) := by
  refine Position.ext (funext fun other => ?_) rfl
  have looked : (s.change id (AccountRow.shift (sign * amount.signed) time)).find other =
      (s.find other).map fun x => if x.id = id then x.shift (sign * amount.signed) time else x := by
    simp only [LedgerRows.find, LedgerRows.change, List.find?_map]
    congr 2
    funext x
    by_cases own : x.id = id
    · simp [own, AccountRow.shift]
    · simp [own]
  simp only [LedgerRows.position, looked, Position.put_balance, Option.map_map]
  by_cases same : other = id
  · subst same
    obtain ⟨_, own⟩ := find_row s other r found
    simp only [found, Option.map_some, Function.comp_apply, if_pos own, if_true, AccountRow.shift,
      (Decimal.money_signed amount money).1]
    push_cast
    congr 1
    ring
  · rw [if_neg same]
    cases known : s.find other with
    | none => rfl
    | some x =>
        obtain ⟨_, own⟩ := find_row s other x known
        simp [own, same]

theorem create_position (free : s.find id = none) :
    LedgerRows.position { s with accounts := s.accounts ++ [newAccount amount id time] } =
      s.position.put id amount.value := by
  refine Position.ext (funext fun other => ?_) rfl
  simp only [LedgerRows.position, LedgerRows.find, Position.put_balance, List.find?_append]
  by_cases same : other = id
  · subst same
    rw [LedgerRows.find] at free
    simp [free, newAccount, (Decimal.money_signed amount money).1]
  · rw [if_neg same]
    simp [newAccount, Ne.symm same]

theorem append_position :
    LedgerRows.position { s with entries := s.entries ++ [newEntry number amount id time] } =
      s.position.post id amount.value := by
  refine Position.ext rfl (funext fun other => ?_)
  simp only [LedgerRows.position, Position.post_entries, List.filter_append, List.map_append]
  by_cases same : other = id
  · subst same
    simp [newEntry, (Decimal.money_signed amount money).1]
  · rw [if_neg same]
    simp [newEntry, Ne.symm same]

end Positions

end Statements

end DoubleEntry.Sql
