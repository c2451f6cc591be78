import DoubleEntry.Proofs.Sql.Statements

/-!
The database keeps to the contract of a store: its tables hold the position of the ledger, and each call of the
ledger does to them what it does to the position.
-/

set_option autoImplicit false

namespace DoubleEntry.Sql.Database

open Time (Moment Stamp)

def Rests (p : Position) (link : Link Database) : Prop :=
  ∃ ledger : LedgerRows, link.state.published = ledger.tables ∧ link.state.work = .none ∧ ledger.Sound link.state.drawn ∧
    ledger.position = p

def Works (p : Position) (q : Option Position) (link : Link Database) : Prop :=
  ∃ ledger : LedgerRows, link.state.published = ledger.tables ∧ ledger.Sound link.state.drawn ∧ ledger.position = p ∧
    ∀ here, q = some here → ∃ unit : LedgerRows, link.state.work = .open unit.tables ∧ unit.Sound link.state.drawn ∧
      unit.position = here

def next (db : Database) (s : Statement) : Nat := if s.draws then db.drawn + 1 else db.drawn

section Replies

variable (db : Database) (style : Style) (s : Statement) (tables : Tables) (done : Executed) (refusal : Refusal)
  (number : Nat)

theorem query_resting (resting : db.work = .none) (executed : db.published.execute db.clock number s = .ok done)
    (drawn : db.next s = number) :
    db.reply (.query style s) = (.rows done.rows, { db with published := done.tables, drawn := number }) := by
  rw [next] at drawn
  simp only [reply, execute, resting, drawn, executed]

theorem query_working (working : db.work = .open tables) (executed : tables.execute db.clock number s = .ok done)
    (drawn : db.next s = number) :
    db.reply (.query style s) = (.rows done.rows, { db with work := .open done.tables, drawn := number }) := by
  rw [next] at drawn
  simp only [reply, execute, working, drawn, executed]

theorem query_refused (working : db.work = .open tables)
    (executed : tables.execute db.clock number s = .error refusal) (drawn : db.next s = number) :
    db.reply (.query style s) = (.failure (.server true refusal.state refusal.detail),
      { db with work := .failed, drawn := number }) := by
  rw [next] at drawn
  simp only [reply, execute, working, drawn, executed]

theorem execute_working (working : db.work = .open tables) (executed : tables.execute db.clock number s = .ok done)
    (drawn : db.next s = number) :
    db.reply (.execute style s) = (.affected done.affected, { db with work := .open done.tables, drawn := number }) := by
  rw [next] at drawn
  simp only [reply, execute, working, drawn, executed]

end Replies

theorem link_answered (link : Link Database) (c : Call) (replied : Reply) (after : Database)
    (answered : link.state.reply (wire c) = (replied, after))
    (goesOn : (c.isEnd && !(received c replied).isOk) = false) :
    (Link.answer server link c).1 = received c replied ∧ (Link.answer server link c).2.state = after := by
  have reply : (server.reply link.state (wire c)) = (replied, after) := answered
  unfold Link.answer Link.settled Link.send
  simp only [reply, goesOn, Bool.false_eq_true, if_false, true_and]

section Work

variable (p q : Position) (link : Link Database) (works : Works p (some q) link)

include works

theorem work_done (c : Call) (goesOn : c.isEnd = false) (good : Except StoreError c.Reply → Prop) (after : Position)
    (answers : ∀ (db : Database) (unit : LedgerRows), db = link.state → db.work = .open unit.tables → unit.Sound db.drawn →
      unit.position = q → ∃ (replied : Reply) (later : LedgerRows) (drawn : Nat), db.drawn ≤ drawn ∧
        db.reply (wire c) = (replied, { db with work := .open later.tables, drawn }) ∧ good (received c replied) ∧
        later.Sound drawn ∧ later.position = after) :
    good (Link.answer server link c).1 ∧ Works p (some after) (Link.answer server link c).2 := by
  obtain ⟨ledger, published, isSound, held, holds⟩ := works
  obtain ⟨unit, opened, unitSound, here⟩ := holds q rfl
  obtain ⟨replied, later, drawn, grown, answered, isGood, laterSound, there⟩ :=
    answers link.state unit rfl opened unitSound here
  obtain ⟨told, state⟩ := link_answered link c replied _ answered (by rw [goesOn]; rfl)
  rw [told]
  refine ⟨isGood, ledger, ?_, ?_, held, ?_⟩
  · rw [state]
    exact published
  · rw [state]
    exact sound_later ledger _ _ grown isSound
  · intro last reached
    cases reached
    rw [state]
    exact ⟨later, rfl, laterSound, there⟩

theorem work_failed (c : Call) (goesOn : c.isEnd = false) (good : Except StoreError c.Reply → Prop)
    (answers : ∀ (db : Database) (unit : LedgerRows), db.work = .open unit.tables → unit.Sound db.drawn →
      unit.position = q → ∃ (replied : Reply),
        db.reply (wire c) = (replied, { db with work := .failed }) ∧ good (received c replied)) :
    good (Link.answer server link c).1 ∧ Works p none (Link.answer server link c).2 := by
  obtain ⟨ledger, published, isSound, held, holds⟩ := works
  obtain ⟨unit, opened, unitSound, here⟩ := holds q rfl
  obtain ⟨replied, answered, isGood⟩ := answers link.state unit opened unitSound here
  obtain ⟨told, state⟩ := link_answered link c replied _ answered (by rw [goesOn]; rfl)
  rw [told]
  refine ⟨isGood, ledger, ?_, ?_, held, fun _ impossible => by cases impossible⟩
  · rw [state]
    exact published
  · rw [state]
    exact isSound

end Work

section Reads

variable (p : Position) (link : Link Database) (rests : Rests p link)

include rests

theorem read_done (c : Call) (goesOn : c.isEnd = false) (style : Style) (s : Statement) (sent : wire c = .query style s)
    (plain : s.draws = false) (good : Except StoreError c.Reply → Prop)
    (answers : ∀ (ledger : LedgerRows) (drawn : Nat) (clock : Moment), ledger.Sound drawn → ledger.position = p →
      ∃ rows count, ledger.tables.execute clock drawn s = .ok ⟨ledger.tables, rows, count⟩ ∧
        good (received c (.rows rows))) :
    good (Link.answer server link c).1 ∧ Rests p (Link.answer server link c).2 := by
  obtain ⟨ledger, published, resting, isSound, held⟩ := rests
  obtain ⟨rows, count, executed, isGood⟩ := answers ledger link.state.drawn link.state.clock isSound held
  have number : link.state.next s = link.state.drawn := by
    rw [next, plain]
    rfl
  have answered := query_resting link.state style s ⟨ledger.tables, rows, count⟩ link.state.drawn resting
    (by rw [published]; exact executed) number
  obtain ⟨told, state⟩ := link_answered link c (.rows rows) _ (by rw [sent]; exact answered) (by rw [goesOn]; rfl)
  rw [told]
  refine ⟨isGood, ledger, ?_, ?_, ?_, held⟩
  · rw [state]
  · rw [state]
    exact resting
  · rw [state]
    exact isSound

end Reads

theorem position_row (s : LedgerRows) (id : AccountId) (held : ℚ) (known : s.position.balance id = some held) :
    ∃ r, s.find id = some r ∧ (r.steps : ℚ) / 10 ^ 5 = held :=
  Option.map_eq_some_iff.mp known

theorem row_missing (s : LedgerRows) (id : AccountId) :
    id ∉ s.accounts.map AccountRow.id ↔ s.position.balance id = none := by
  rw [LedgerRows.position, Option.map_eq_none_iff, LedgerRows.find, List.find?_eq_none, List.mem_map, not_exists]
  simp

theorem steps_le (amount : Decimal) (money : amount.IsMoney) (steps : Int) :
    amount.value ≤ (steps : ℚ) / 10 ^ 5 ↔ amount.signed ≤ steps := by
  rw [(Decimal.money_signed amount money).1, div_le_div_iff_of_pos_right (by norm_num), Int.cast_le]

theorem steps_nonneg (amount : Decimal) (money : amount.IsMoney) (nonneg : 0 ≤ amount.value) : 0 ≤ amount.signed := by
  rw [(Decimal.money_signed amount money).1, le_div_iff₀ (by norm_num), zero_mul] at nonneg
  exact_mod_cast nonneg

theorem steps_room (amount : Decimal) (money : amount.IsMoney) (steps : Int)
    (room : (steps : ℚ) / 10 ^ 5 + amount.value < 10 ^ 23) : steps + amount.signed < 10 ^ 28 := by
  rw [(Decimal.money_signed amount money).1, ← add_div, div_lt_iff₀ (by norm_num)] at room
  have cast : ((steps + amount.signed : ℤ) : ℚ) < ((10 ^ 28 : ℤ) : ℚ) := by
    push_cast
    apply lt_of_lt_of_eq room
    norm_num
  exact_mod_cast cast

-- The times that the ledger writes are moments.
def Shows (t : Stamp) : Prop := ∃ m, t = .moment m

section Frame

variable (p q : Position) (link : Link Database)

theorem begin_opens (rests : Rests p link) :
    (Link.answer server link .begin).1 = .ok () ∧ Works p (some p) (Link.answer server link .begin).2 := by
  obtain ⟨ledger, published, resting, isSound, held⟩ := rests
  have begun : link.state.reply .begin = (.plain, { link.state with work := .open link.state.published }) := by
    simp only [reply, resting]
  obtain ⟨told, state⟩ := link_answered link .begin .plain _ begun rfl
  refine ⟨told, ledger, ?_, ?_, held, ?_⟩
  · rw [state]
    exact published
  · rw [state]
    exact isSound
  · intro here same
    cases same
    rw [state]
    exact ⟨ledger, congrArg Work.open published, isSound, held⟩

theorem commit_publishes (works : Works p (some q) link) :
    (Link.answer server link .commit).1 = .ok () ∧ Rests q (Link.answer server link .commit).2 := by
  obtain ⟨_, _, _, _, holds⟩ := works
  obtain ⟨unit, opened, unitSound, here⟩ := holds q rfl
  have ended : link.state.reply .commit = (.plain, { link.state with published := unit.tables, work := .none }) := by
    simp only [reply, opened]
  obtain ⟨told, state⟩ := link_answered link .commit .plain _ ended rfl
  refine ⟨told, unit, ?_, ?_, ?_, here⟩
  · rw [state]
  · rw [state]
  · rw [state]
    exact unitSound

theorem rollback_restores (unit : Option Position) (works : Works p unit link) :
    Rests p (Link.answer server link .rollback).2 := by
  obtain ⟨ledger, published, isSound, held, _⟩ := works
  obtain ⟨_, state⟩ := link_answered link .rollback .plain _ rfl rfl
  refine ⟨ledger, ?_, ?_, ?_, held⟩
  · rw [state]
    exact published
  · rw [state]
  · rw [state]
    exact isSound

end Frame

section Reads

variable (p : Position) (link : Link Database) (rests : Rests p link) (id : AccountId)

include rests

theorem account_found : ∃ found : Option Account, (Link.answer server link (.getAccount id)).1 = .ok found ∧
    found.map (fun a => (a.id, a.balance.value)) = (p.balance id).map (fun q => (id, q)) ∧
      Rests p (Link.answer server link (.getAccount id)).2 := by
  have read := read_done p link rests (.getAccount id) rfl .qualified (selectAccount id) rfl rfl
    (fun reply => ∃ found : Option Account, reply = .ok found ∧
      found.map (fun a => (a.id, a.balance.value)) = (p.balance id).map fun q => (id, q)) ?_
  · obtain ⟨⟨found, told, same⟩, resting⟩ := read
    exact ⟨found, told, same, resting⟩
  · rintro ledger drawn clock isSound rfl
    obtain ⟨rows, count, executed, decoded⟩ := account_selected ledger drawn isSound clock drawn id
    refine ⟨rows, count, executed, (ledger.find id).map AccountRow.account, ?_, ?_⟩
    · simp only [received, Sql.decoded, Reply.rowsOf, Except.bind, decoded]
      rfl
    · simp only [LedgerRows.position, Option.map_map]
      cases found : ledger.find id with
      | none => rfl
      | some r =>
          obtain ⟨inside, own⟩ := find_row ledger id r found
          have value := (decimal_cell r.steps (small_balance ledger drawn isSound r inside)).2
          simp only [Option.map_some, Function.comp_apply, AccountRow.account, own, value]

theorem entries_listed : ∃ entries : List Entry, (Link.answer server link (.listEntries id)).1 = .ok entries ∧
    entries.map (fun e => e.amount.value) = p.entries id ∧ Rests p (Link.answer server link (.listEntries id)).2 := by
  have read := read_done p link rests (.listEntries id) rfl .qualified (selectEntries id) rfl rfl
    (fun reply => ∃ entries : List Entry, reply = .ok entries ∧
      entries.map (fun e => e.amount.value) = p.entries id) ?_
  · obtain ⟨⟨entries, told, same⟩, resting⟩ := read
    exact ⟨entries, told, same, resting⟩
  · rintro ledger drawn clock isSound rfl
    obtain ⟨rows, count, executed, decoded⟩ := entries_selected ledger drawn isSound clock drawn id
    refine ⟨rows, count, executed, (ledger.entries.filter fun e => decide (e.account = id)).map EntryRow.entry, ?_, ?_⟩
    · simp only [received, Sql.decoded, Reply.rowsOf, Except.bind, decoded]
      rfl
    · rw [LedgerRows.position, List.map_map]
      apply List.map_congr_left
      intro e member
      exact (decimal_cell e.steps (isSound.amounts e (List.mem_filter.mp member).1)).2

end Reads

section Writes

variable (p q : Position) (link : Link Database) (works : Works p (some q) link) (id : AccountId) (amount : Decimal)
  (now : Stamp) (held : ℚ)

include works

theorem pair_counted (a b : AccountId) (different : a ≠ b) : ∃ found : List Account,
    (Link.answer server link (.getAccounts [a, b])).1 = .ok found ∧
      (found.length < 2 ↔ q.balance a = none ∨ q.balance b = none) ∧
      Works p (some q) (Link.answer server link (.getAccounts [a, b])).2 := by
  have read := work_done p q link works (.getAccounts [a, b]) rfl (fun reply => ∃ found : List Account,
    reply = .ok found ∧ (found.length < 2 ↔ q.balance a = none ∨ q.balance b = none)) q ?_
  · obtain ⟨⟨found, told, both⟩, working⟩ := read
    exact ⟨found, told, both, working⟩
  · rintro db unit - opened unitSound rfl
    obtain ⟨rows, count, executed, decoded⟩ := accounts_selected unit db.drawn unitSound db.clock db.drawn a b
    refine ⟨.rows rows, unit, db.drawn, Nat.le_refl _, query_working db .qualified _ _ _ _ opened executed rfl, ?_,
      unitSound, rfl⟩
    refine ⟨(unit.accounts.filter fun r => [a, b].contains r.id).map AccountRow.account, ?_, ?_⟩
    · simp only [received, Sql.decoded, Reply.rowsOf, Except.bind, decoded]
      rfl
    · rw [List.length_map, both_found AccountRow.id unit.accounts a b unitSound.distinct different,
        row_missing, row_missing]

theorem low_account_refused (payable : Payable IsWord Shows id amount now) (low : id < 1) :
    (∃ detail, (Link.answer server link (.createAccount ⟨id, amount, now, now⟩)).1 = .error (.backend detail)) ∧
      Works p none (Link.answer server link (.createAccount ⟨id, amount, now, now⟩)).2 := by
  obtain ⟨⟨word, money, time, rfl⟩, nonneg⟩ := payable
  refine work_failed p q link works _ rfl (fun reply => ∃ detail, reply = .error (.backend detail)) ?_
  rintro db unit opened unitSound rfl
  have executed := create_low unit db.clock db.drawn amount money id word time low
  exact ⟨_, query_refused db .qualified _ _ _ _ opened executed rfl, _, rfl⟩

theorem taken_account_refused (payable : Payable IsWord Shows id amount now) (high : ¬ id < 1)
    (known : q.balance id = some held) :
    (∃ detail, (Link.answer server link (.createAccount ⟨id, amount, now, now⟩)).1 = .error (.duplicateKey detail)) ∧
      Works p none (Link.answer server link (.createAccount ⟨id, amount, now, now⟩)).2 := by
  obtain ⟨⟨word, money, time, rfl⟩, nonneg⟩ := payable
  refine work_failed p q link works _ rfl (fun reply => ∃ detail, reply = .error (.duplicateKey detail)) ?_
  rintro db unit opened unitSound rfl
  obtain ⟨r, found, _⟩ := position_row unit id held known
  have executed := create_taken unit db.drawn unitSound db.clock db.drawn amount money id word time high
    (steps_nonneg amount money nonneg) r found
  exact ⟨_, query_refused db .qualified _ _ _ _ opened executed rfl, _, rfl⟩

theorem account_made (payable : Payable IsWord Shows id amount now) (high : ¬ id < 1) (unknown : q.balance id = none) :
    (∃ made : Account, (Link.answer server link (.createAccount ⟨id, amount, now, now⟩)).1 = .ok made ∧ made.id = id ∧
      made.balance.value = amount.value) ∧
      Works p (some (q.put id amount.value)) (Link.answer server link (.createAccount ⟨id, amount, now, now⟩)).2 := by
  obtain ⟨⟨word, money, time, rfl⟩, nonneg⟩ := payable
  refine work_done p q link works (.createAccount ⟨id, amount, .moment time, .moment time⟩) rfl
    (fun reply => ∃ made : Account, reply = .ok made ∧ made.id = id ∧ made.balance.value = amount.value) _ ?_
  rintro db unit - opened unitSound rfl
  have free : unit.find id = none := Option.map_eq_none_iff.mp unknown
  obtain ⟨executed, later⟩ := create_executed unit db.drawn unitSound db.clock db.drawn amount money id word time
    high (steps_nonneg amount money nonneg) free
  obtain ⟨shape, small⟩ := Decimal.money_signed amount money
  refine ⟨_, _, db.drawn, Nat.le_refl _, query_working db .qualified _ _ _ _ opened executed rfl, ?_, later,
    create_position unit amount money id time free⟩
  refine ⟨(newAccount amount id time).account, ?_, rfl, (decimal_cell _ small).2.trans shape.symm⟩
  simp only [received, Sql.decoded, Reply.rowsOf, Except.bind, inserted,
    account_decoded (newAccount amount id time) small]
  rfl

theorem short_spared (payable : Payable IsWord Shows id amount now) (known : q.balance id = some held)
    (short : held < amount.value) : (Link.answer server link (.debit id amount now)).1 = .ok 0 ∧
      Works p (some q) (Link.answer server link (.debit id amount now)).2 := by
  obtain ⟨⟨word, money, time, rfl⟩, nonneg⟩ := payable
  refine work_done p q link works _ rfl (· = .ok 0) q ?_
  rintro db unit - opened unitSound rfl
  obtain ⟨r, found, rfl⟩ := position_row unit id held known
  have less : r.steps < amount.signed := not_le.mp (mt (steps_le amount money r.steps).mpr (not_le.mpr short))
  have executed := debit_passed unit db.drawn unitSound db.clock db.drawn amount money id time r found less
  exact ⟨_, unit, db.drawn, Nat.le_refl _, execute_working db .qualified _ _ _ _ opened executed rfl, rfl, unitSound,
    rfl⟩

theorem covered_debited (payable : Payable IsWord Shows id amount now) (known : q.balance id = some held)
    (covered : ¬ held < amount.value) : (Link.answer server link (.debit id amount now)).1 = .ok 1 ∧
      Works p (some (q.put id (held - amount.value))) (Link.answer server link (.debit id amount now)).2 := by
  obtain ⟨⟨word, money, time, rfl⟩, nonneg⟩ := payable
  refine work_done p q link works _ rfl (· = .ok 1) _ ?_
  rintro db unit - opened unitSound rfl
  obtain ⟨r, found, rfl⟩ := position_row unit id held known
  obtain ⟨executed, later⟩ := debit_executed unit db.drawn unitSound db.clock db.drawn amount money id time r found
    (steps_nonneg amount money nonneg) ((steps_le amount money r.steps).mp (not_lt.mp covered))
  refine ⟨_, _, db.drawn, Nat.le_refl _, execute_working db .qualified _ _ _ _ opened executed rfl, rfl, later, ?_⟩
  rw [shift_position unit amount money id time (-1) r found]
  congr 1
  push_cast
  ring

theorem roomy_credited (payable : Payable IsWord Shows id amount now) (known : q.balance id = some held)
    (room : held + amount.value < 10 ^ 23) : (Link.answer server link (.credit id amount now)).1 = .ok 1 ∧
      Works p (some (q.put id (held + amount.value))) (Link.answer server link (.credit id amount now)).2 := by
  obtain ⟨⟨word, money, time, rfl⟩, nonneg⟩ := payable
  refine work_done p q link works _ rfl (· = .ok 1) _ ?_
  rintro db unit - opened unitSound rfl
  obtain ⟨r, found, rfl⟩ := position_row unit id held known
  obtain ⟨executed, later⟩ := credit_executed unit db.drawn unitSound db.clock db.drawn amount money id time r found
    (steps_nonneg amount money nonneg) (steps_room amount money r.steps room)
  refine ⟨_, _, db.drawn, Nat.le_refl _, execute_working db .qualified _ _ _ _ opened executed rfl, rfl, later, ?_⟩
  rw [shift_position unit amount money id time 1 r found]
  congr 1
  push_cast
  ring

theorem entry_made (writable : Writable IsWord Shows id amount now) (known : q.balance id = some held) :
    (∃ made, (Link.answer server link (.append ⟨id, amount, now⟩)).1 = .ok made) ∧
      Works p (some (q.post id amount.value)) (Link.answer server link (.append ⟨id, amount, now⟩)).2 := by
  obtain ⟨word, money, time, rfl⟩ := writable
  refine work_done p q link works (.append ⟨id, amount, .moment time⟩) rfl
    (fun reply => ∃ made, reply = .ok made) _ ?_
  rintro db unit - opened unitSound rfl
  obtain ⟨r, found, _⟩ := position_row unit id held known
  obtain ⟨executed, later⟩ :=
    append_executed unit db.drawn unitSound db.clock (db.drawn + 1) amount money id word time rfl r found
  refine ⟨_, _, db.drawn + 1, Nat.le_succ _, query_working db .qualified _ _ _ _ opened executed rfl, ?_, later,
    append_position unit (db.drawn + 1) amount money id time⟩
  refine ⟨(newEntry (db.drawn + 1) amount id time).entry, ?_⟩
  simp only [received, Sql.decoded, Reply.rowsOf, Except.bind, inserted,
    entry_decoded (newEntry (db.drawn + 1) amount id time) (Decimal.money_signed amount money).2]
  rfl

end Writes

def contract : Contract (Link.store server) where
  rests := Rests
  works := Works
  takes := IsWord
  shows := Shows
  begins := begin_opens
  commits := commit_publishes
  rollsBack p q link works := rollback_restores p link q works
  clock _ _ _ works := ⟨⟨_, rfl⟩, works⟩
  finds p link id _ rests := account_found p link rests id
  lists p link id _ rests := entries_listed p link rests id
  counts p q link a b _ _ different works := pair_counted p q link works a b different
  refuses p q link id balance now payable works := low_account_refused p q link works id balance now payable
  repeats p q link id balance now held payable works := taken_account_refused p q link works id balance now held payable
  creates p q link id balance now payable works := account_made p q link works id balance now payable
  spares p q link id amount now held payable works := short_spared p q link works id amount now held payable
  debits p q link id amount now held payable works := covered_debited p q link works id amount now held payable
  credits p q link id amount now held payable works := roomy_credited p q link works id amount now held payable
  appends p q link id amount now held writable works := entry_made p q link works id amount now held writable

end DoubleEntry.Sql.Database
