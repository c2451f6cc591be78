import DoubleEntry.Proofs.History.Alone
import DoubleEntry.Proofs.Sql.Contract

/-!
The store in memory and the one behind SQL agree. One operation after another, both give the same answers and hold the
same balances and entries, as long as no amount and no balance comes up to the limit.
-/

set_option autoImplicit false

namespace DoubleEntry.Sql

open Ledger (Operation Outcome)
open Session (Answer)
open Time (Moment Stamp)

def Value.number? : Value → Option ℚ
  | int n => some n
  | numeric m s => some (m / 10 ^ s)
  | timestamp _ => none

-- What the tables hold: the balances, and the amounts of entries in the order of their ids.
def Tables.position (tables : Tables) : Position :=
  { balance := fun id =>
      ((tables accounts).find? fun row => compared Value.same (row.lookup AccountColumn.id) (some (.int id))).bind
        fun row => (row.lookup AccountColumn.balance).bind Value.number?
    entries := fun id =>
      (sorted (some EntryColumn.id) ((tables ledgerEntries).filter fun row =>
        compared Value.same (row.lookup EntryColumn.account) (some (.int id)))).filterMap
          fun row => (row.lookup EntryColumn.amount).bind Value.number? }

theorem ledger_rows_position (s : LedgerRows) (drawn : Nat) (isSound : s.Sound drawn) : s.tables.position = s.position := by
  refine Position.ext (funext fun id => ?_) (funext fun id => ?_)
  · simp only [Tables.position, ledger_rows_accounts, List.find?_map, LedgerRows.position, LedgerRows.find]
    have chosen : ((fun row : Tuple => compared Value.same (row.lookup AccountColumn.id) (some (.int id))) ∘
        AccountRow.tuple) = fun r => decide (r.id = id) := by
      funext r
      simp
    rw [chosen]
    cases s.accounts.find? fun r => decide (r.id = id) <;> rfl
  · have chosen : ((s.entries.map EntryRow.tuple).filter fun row =>
        compared Value.same (row.lookup EntryColumn.account) (some (.int id))) =
        (s.entries.filter fun e => decide (e.account = id)).map EntryRow.tuple := by
      rw [List.filter_map]
      congr 2
      funext e
      simp
    simp only [Tables.position, ledger_rows_entries, chosen, LedgerRows.position]
    rw [entries_sorted s drawn isSound id, List.filterMap_map]
    exact congrFun List.filterMap_eq_map _

-- An operation, and the times at which the two stores carry it out.
structure Step where
  operation : Operation
  now : Stamp
  clock : Moment

-- One operation after another, each alone: the answers, and what is committed after each.
def inMemory (book : Book) : List Step → List (Answer × Book)
  | [] => []
  | step :: rest =>
    let done := (Demand.operation step.operation).alone step.now book
    done :: inMemory done.2 rest

def inDatabase (db : Database) : List Step → List (Outcome × Database)
  | [] => []
  | step :: rest =>
    let played := (step.operation.task none).body.play (Link.store Database.server)
      ⟨{ db with clock := step.clock }, []⟩
    (played.answer, played.state.state) :: inDatabase played.state.state rest

structure Agree (memory : Answer × Book) (sql : Outcome × Database) : Prop where
  answer : ∃ outcome, memory.1 = .outcome outcome ∧ outcome.gist = sql.1.gist
  position : memory.2.position = sql.2.published.position

theorem runs_agree (steps : List Step) (p : Position) (book : Book) (db : Database) (link : List (Sent × Reply))
    (words : ∀ step ∈ steps, ∀ id ∈ step.operation.ids, IsWord id)
    (fits : p.AllWithinLimit (steps.map Step.operation)) (tidy : book.Tidy) (held : book.position = p)
    (rests : Database.Rests p ⟨db, link⟩) : List.Forall₂ Agree (inMemory book steps) (inDatabase db steps) := by
  induction steps generalizing p book db link with
  | nil => exact .nil
  | cons step rest ih =>
      obtain ⟨fitsHere, fitsLater⟩ := fits
      subst held
      obtain ⟨outcome, later, alone, told, tidyLater, heldLater⟩ :=
        alone_follows step.now book tidy step.operation fitsHere
      have timed : Database.Rests book.position ⟨{ db with clock := step.clock }, []⟩ := rests
      obtain ⟨answered, restsLater⟩ := Database.contract.operation_follows book.position step.operation _
        (words step List.mem_cons_self) fitsHere timed
      obtain ⟨ledger, published, resting, isSound, same⟩ := restsLater
      rw [inMemory, inDatabase, alone]
      refine .cons ⟨⟨outcome, rfl, told.trans answered.symm⟩, ?_⟩
        (ih _ later _ _ (fun s member => words s (List.mem_cons_of_mem _ member)) fitsLater tidyLater heldLater
          ⟨ledger, published, resting, isSound, same⟩)
      simp only [published, ledger_rows_position ledger _ isSound, same, heldLater]

theorem empty_rests (start : Moment) (link : List (Sent × Reply)) :
    Database.Rests Position.empty ⟨Database.empty start, link⟩ := by
  refine ⟨⟨[], []⟩, ?_, rfl, ?_, rfl⟩
  · funext table
    simp [Database.empty, LedgerRows.tables]
  · exact ⟨List.nodup_nil, by simp, by simp, .nil, by simp, by simp, by simp⟩

/-- From empty stores on, step by step. -/
theorem stores_agree (start : Moment) (steps : List Step)
    (words : ∀ step ∈ steps, ∀ id ∈ step.operation.ids, IsWord id)
    (fits : Position.empty.AllWithinLimit (steps.map Step.operation)) :
    List.Forall₂ Agree (inMemory Book.empty steps) (inDatabase (Database.empty start) steps) :=
  runs_agree steps Position.empty Book.empty (Database.empty start) [] words fits
    (Book.balanced_tidy _ Book.empty_balanced) rfl (empty_rests start [])

-- Two accounts, a transfer that is covered and one that is not any more, and ids that are taken or too low.
theorem stores_agree_on_transfers :
    let hundred : Decimal := .ofWhole 100 (Nat.le_of_ble_eq_true rfl)
    let steps : List Step := [Operation.createAccount ⟨1, hundred⟩, .createAccount ⟨2, .zero⟩,
      .createTransfer ⟨1, 2, hundred⟩, .createTransfer ⟨1, 2, hundred⟩, .createAccount ⟨1, .zero⟩,
      .createAccount ⟨0, .zero⟩].map fun operation => ⟨operation, default, default⟩
    (∀ step ∈ steps, ∀ id ∈ step.operation.ids, IsWord id) ∧ Position.empty.AllWithinLimit (steps.map Step.operation) ∧
      List.Forall₂ Agree (inMemory Book.empty steps) (inDatabase (Database.empty default) steps) := by
  intro hundred steps
  have round : (Amount.round hundred).value = 100 := by
    have shape : Amount.round hundred = ⟨false, 10000000, 5, Nat.le_of_ble_eq_true rfl, by decide⟩ := by decide
    rw [shape]
    norm_num [Decimal.value, Decimal.signed]
  have zero : (Amount.round .zero).value = 0 := by
    have shape : Amount.round .zero = ⟨false, 0, 5, Nat.le_of_ble_eq_true rfl, by decide⟩ := by decide
    rw [shape]
    norm_num [Decimal.value, Decimal.signed]
  have fits : Position.empty.AllWithinLimit (steps.map Step.operation) := by
    refine Position.small_amounts_fit _ _ 0 (le_refl 0) (fun id q known => by cases known) ?_
    norm_num [steps, Operation.size, Operation.amount?, round, zero]
  have words : ∀ step ∈ steps, ∀ id ∈ step.operation.ids, IsWord id := by
    norm_num [steps, Operation.ids, IsWord]
  exact ⟨words, fits, stores_agree default steps words fits⟩

end DoubleEntry.Sql
