import DoubleEntry.Proofs.Decimal.Value
import DoubleEntry.Proofs.Sql.Database
import DoubleEntry.Proofs.Sql.Transaction

/-!
The limit on amounts, behind SQL. Nothing on this side compares an amount with the limit: a rounded amount goes into
the rows as it is, and a column of thirty digits with five after the point has room for a hundred times the limit. So
what is inserted is money exactly where the amount is below the limit, or where nothing is inserted at all.
-/

set_option autoImplicit false

namespace DoubleEntry.Sql

open Ledger (Operation Result)
open Time (Stamp)

def Param.decimal? : Param → Option Decimal
  | decimal d => some d
  | _ => none

-- The numbers that a statement puts into new rows.
def Sent.inserted : Sent → List Decimal
  | query _ (.insert _ values _) | execute _ (.insert _ values _) => values.filterMap fun v => v.2.decimal?
  | _ => []

theorem inserted_params (x : Sent) (d : Decimal) (member : d ∈ x.inserted) : .decimal d ∈ x.params := by
  have bound : ∀ values : List (Column × Param), d ∈ values.filterMap (fun v => v.2.decimal?) →
      .decimal d ∈ values.map Prod.snd := by
    intro values among
    obtain ⟨v, inside, shown⟩ := List.mem_filterMap.mp among
    refine List.mem_map.mpr ⟨v, inside, ?_⟩
    cases value : v.2 with
    | decimal other =>
        rw [value] at shown
        rw [Option.some.inj shown]
    | bigint n | limit n | text s | timestamp t | timestampUtc t | now =>
        rw [value] at shown
        cases shown
  cases x with
  | query style s | execute style s =>
      cases s with
      | insert table values returning => exact bound values member
      | select columns table conditions order limit | update table assignments conditions
      | delete table conditions | script text => cases member
  | begin | commit | rollback | startRollback => cases member

theorem money_below (d : Decimal) (money : d.IsMoney) : Amount.isBelowLimit d = true := (below_limit d).mpr money.below

-- What becomes of the amount of a transaction on its way into new rows.
structure GoesIn (amount : Decimal) (statements : List Sent) (sent : List (Sent × Reply)) : Prop where
  values : ∀ x ∈ sent, ∀ d ∈ x.1.inserted, d = amount ∨ d = amount.neg
  money : (∀ x ∈ sent, ∀ d ∈ x.1.inserted, d.IsMoney) ↔
    Amount.isBelowLimit amount = true ∨ ∀ x ∈ sent, x.1.inserted = []
  sends : ∀ begun more, sent = (.begin, begun) :: more → wellAnswered .begin begun = true →
    ∀ front s rest, statements = front ++ s :: rest →
      (∀ x ∈ sent, x.1 ∈ front → wellAnswered x.1 x.2 = true) → ∃ reply, (s, reply) ∈ sent

theorem statement_sent (statements : List Sent) (sent : List (Sent × Reply)) (success : Bool)
    (shape : Transaction statements sent success) (begun : Reply) (more : List (Sent × Reply))
    (same : sent = (.begin, begun) :: more) (opened : wellAnswered .begin begun = true) (front : List Sent) (s : Sent)
    (rest : List Sent) (split : statements = front ++ s :: rest)
    (fine : ∀ x ∈ sent, x.1 ∈ front → wellAnswered x.1 x.2 = true) : ∃ reply, (s, reply) ∈ sent := by
  cases shape with
  | refused reply fails =>
      cases same
      rw [opened] at fails
      cases fails
  | committed other done reply tail _ whole _ _ =>
      have member : s ∈ done.map Prod.fst := by
        rw [whole, split]
        simp
      obtain ⟨x, inside, rfl⟩ := List.mem_map.mp member
      exact ⟨x.2, by simp [inside]⟩
  | rolledBack other done last remaining reply tail _ stopped _ unwanted _ =>
      have reached : front.length ≤ done.length := by
        by_contra short
        have here : statements[done.length]? = some last.1 := by simp [stopped]
        rw [split, List.getElem?_append_left (Nat.lt_of_not_le short)] at here
        rw [fine last (by simp) (List.mem_of_getElem? here)] at unwanted
        cases unwanted
      have here : statements[front.length]? = some s := by simp [split]
      rw [stopped] at here
      have member : s ∈ done.map Prod.fst ++ [last.1] := by
        apply List.mem_of_getElem? (i := front.length)
        rw [← here]
        rcases Nat.lt_or_eq_of_le reached with before | last
        · rw [List.getElem?_append_left (by simpa using before), List.getElem?_append_left (by simpa using before)]
        · simp [last]
      rcases List.mem_append.mp member with inside | atLast
      · obtain ⟨x, among, rfl⟩ := List.mem_map.mp inside
        exact ⟨x.2, by simp [among]⟩
      · rw [List.mem_singleton.mp atLast]
        exact ⟨last.2, by simp⟩

theorem goes_in (value : Decimal) (statements : List Sent) (sent : List (Sent × Reply)) (success : Bool)
    (wire : OnTheWire (Amount.round value) statements sent success) : GoesIn (Amount.round value) statements sent := by
  have values : ∀ x ∈ sent, ∀ d ∈ x.1.inserted, d = Amount.round value ∨ d = (Amount.round value).neg :=
    fun x member d among => wire.amounts x member d (inserted_params x.1 d among)
  refine ⟨values, ⟨?_, ?_⟩, statement_sent statements sent success wire.shape⟩
  · intro allMoney
    by_cases none : ∀ x ∈ sent, x.1.inserted = []
    · exact .inr none
    · obtain ⟨x, member, some⟩ : ∃ x ∈ sent, x.1.inserted ≠ [] := by simpa using none
      obtain ⟨d, among⟩ := List.exists_mem_of_ne_nil _ some
      have money := allMoney x member d among
      refine .inl (money_below _ ?_)
      rcases values x member d among with rfl | rfl
      · exact money
      · rw [← Decimal.neg_neg (Amount.round value)]
        exact Decimal.money_neg _ money
  · rintro (below | none) x member d among
    · have money := Decimal.round_money value below
      rcases values x member d among with rfl | rfl
      · exact money
      · exact Decimal.money_neg _ money
    · rw [none x member] at among
      cases among

section Operations

variable {σ : Type} (server : Server σ)

def Unchecked (rejection? : Option LedgerError) (amount : Decimal) (statements : Stamp → List Sent) (link after : Link σ) :
    Prop :=
  match rejection? with
  | some _ => after = link
  | none => ∃ now sent, after.exchanges = link.exchanges ++ sent ∧ GoesIn amount (statements now) sent

theorem transacted_unchecked {α : Type} (rejection? : Option LedgerError) (value : Decimal)
    (statements : Stamp → List Sent) (link : Link σ) (played : Played (Link σ) (Result α))
    (transacted : Transacted rejection? (Amount.round value) statements link played) :
    Unchecked rejection? (Amount.round value) statements link played.state := by
  unfold Transacted at transacted
  unfold Unchecked
  cases rejection? with
  | some e => exact transacted.2
  | none =>
      obtain ⟨now, sent, exchanges, wire⟩ := transacted
      exact ⟨now, sent, exchanges, goes_in value _ _ _ wire⟩

/-- What the rounded amount of an operation is makes no difference to what is sent. -/
theorem amounts_go_in_unchecked (link : Link σ) :
    (∀ input, Unchecked (Operation.createAccount input).rejection? (Amount.round input.initialBalance)
      (accountStatements input) link ((Ledger.createAccount none input).body.play (Link.store server) link).state) ∧
    ∀ input, Unchecked (Operation.createTransfer input).rejection? (Amount.round input.amount)
      (transferStatements input) link ((Ledger.createTransfer none input).body.play (Link.store server) link).state := by
  constructor
  · intro input
    apply transacted_unchecked
    refine carried_transacted server _ _ (Ledger.accountWork input) _ ?_ (account_work_wire input) (account_plain input)
      _ link (Ledger.create_account_protocol _ input link)
    simp [Ledger.accountWork, Call.isWork]
  · intro input
    apply transacted_unchecked
    refine carried_transacted server _ _ (Ledger.transferWork input) _ ?_ (transfer_work_wire input) (transfer_plain input)
      _ link (Ledger.create_transfer_protocol _ input link)
    simp [Ledger.transferWork, Call.isWork]

end Operations

-- An account whose balance is the limit itself, opened in an empty database.
def openedAtLimit : Played (Link Database) (Result Account) :=
  (Ledger.createAccount none ⟨1, Amount.limit⟩).body.play (Link.store Database.server) ⟨Database.empty default, []⟩

-- No column is in the way of it: the account is opened, with a balance that is not below the limit.
theorem limit_is_stored : openedAtLimit.answer.isOk = true ∧
    (∃ x ∈ openedAtLimit.state.exchanges, ∃ d ∈ x.1.inserted, ¬ d.IsMoney) ∧
    ∃ row ∈ openedAtLimit.state.state.published accounts,
      row.lookup AccountColumn.balance = some (.numeric (tenTo 28) 5) := by
  have opened : openedAtLimit.answer.isOk = true := by decide +kernel
  have stored : (openedAtLimit.state.state.published accounts).map (fun row => row.lookup AccountColumn.balance) =
      [some (.numeric (tenTo 28) 5)] := by decide +kernel
  have inserted : Amount.round Amount.limit ∈ openedAtLimit.state.exchanges.flatMap fun x => x.1.inserted := by
    decide +kernel
  have beyond : Amount.isBelowLimit (Amount.round Amount.limit) = false := by decide +kernel
  obtain ⟨x, sent, among⟩ := List.mem_flatMap.mp inserted
  obtain ⟨row, member, balance⟩ := List.mem_map.mp (stored ▸ List.mem_singleton_self _)
  refine ⟨opened, ⟨x, sent, _, among, fun money => ?_⟩, row, member, balance⟩
  rw [money_below _ money] at beyond
  cases beyond

end DoubleEntry.Sql
