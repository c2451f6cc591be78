import DoubleEntry.Proofs.Book.Order
import DoubleEntry.Proofs.History.Books
import Mathlib

/-!
Histories only add to the books. Whatever was committed at one moment is there at every later one: the journal then
begins with it, and its accounts keep the dates on which they were opened. So what was read once is never unread.
-/

set_option autoImplicit false

namespace DoubleEntry

open Ledger (Operation Result)
open Time (Stamp)

namespace Ledger

section Writes

variable (now : Stamp) (book later : Book) (o : Operation) (writes : Writes now book later o)

include writes

theorem writes_extends : book.Extends later := by
  cases writes with
  | opened input account entry mid _ created appended =>
      have grown := Book.append_extends mid _ entry later appended
      exact Book.extends_trans book mid later (Book.create_extends book _ account mid created) grown
  | moved input debited credited left right reduced raised mid _ debit _ credit _ first second =>
      have taken := Book.debit_extends book _ _ now debited reduced debit
      have given := Book.credit_extends reduced _ _ now credited raised credit
      have half := Book.append_extends raised _ left mid first
      have whole := Book.append_extends mid _ right later second
      exact Book.extends_trans book reduced later taken
        (Book.extends_trans reduced raised later given (Book.extends_trans raised mid later half whole))

theorem writes_in_order (order : book.InOrder) : later.InOrder := by
  cases writes with
  | opened input account entry mid _ created appended =>
      have opened := Book.create_in_order book order _ account mid created
      exact Book.append_in_order mid opened _ entry later appended
  | moved input debited credited left right reduced raised mid _ debit _ credit _ first second =>
      have taken := Book.debit_in_order book order _ _ now debited reduced debit
      have given := Book.credit_in_order reduced taken _ _ now credited raised credit
      have half := Book.append_in_order raised given _ left mid first
      exact Book.append_in_order mid half _ right later second

end Writes

theorem entries_grow (book later : Book) (grown : book.Extends later) (id : AccountId) (list : List Entry)
    (before : entriesIn book id = .ok list) : ∃ longer, entriesIn later id = .ok longer ∧ list <+: longer := by
  rw [entriesIn] at before
  cases found : book.account? id with
  | none =>
      rw [found] at before
      cases before
  | some account =>
      rw [found] at before
      cases before
      obtain ⟨kept, there, _⟩ := grown.accounts id account found
      refine ⟨later.entriesOf id, by rw [entriesIn, there], ?_⟩
      exact grown.entries.filter _

end Ledger

def Record.Reads (r : Record) (id : AccountId) : Prop :=
  r.demand.operation? = some (.getBalance id) ∨ r.demand.operation? = some (.listEntries id)

namespace History

section Growth

variable (start : Store) (events : List Event)

theorem books_grow (e : Event) : (books start events).Extends (books start (events ++ [e])) := by
  cases run_changed start events e with
  | kept same _ =>
      rw [same]
      exact Book.extends_refl _
  | wrote r now o _ _ writes => exact Ledger.writes_extends now _ _ o writes

theorem store_at_extends (earlier later : Nat) (ordered : earlier ≤ later) :
    (storeAt start events earlier).committed.Extends (storeAt start events later).committed := by
  induction later, ordered using Nat.le_induction with
  | base => exact Book.extends_refl _
  | succ moment _ ih =>
      refine Book.extends_trans _ _ _ ih ?_
      by_cases within : moment < events.length
      · have one : events.take (moment + 1) = events.take moment ++ [events[moment]] :=
          List.take_succ_eq_append_getElem within
        rw [storeAt, storeAt, one]
        exact books_grow start (events.take moment) events[moment]
      · have ended : events.length ≤ moment := Nat.le_of_not_lt within
        rw [storeAt, storeAt, List.take_of_length_le ended, List.take_of_length_le (Nat.le_succ_of_le ended)]
        exact Book.extends_refl _

theorem run_in_order (order : start.committed.InOrder) : (books start events).InOrder := by
  induction events using List.reverseRecOn with
  | nil => exact order
  | append_singleton events e ih =>
      cases run_changed start events e with
      | kept same _ =>
          rw [same]
          exact ih
      | wrote r now o _ _ writes => exact Ledger.writes_in_order now _ _ o writes ih

end Growth

section Reading

variable (start : Store) (events : List Event) (r : Record) (member : r ∈ (run start events).records)

include member

theorem turn_later : r.started < r.ended := by
  obtain ⟨stamped, sound⟩ := run_stamped start events
  rw [← sound.records] at member
  obtain ⟨x, among, rfl⟩ := List.mem_map.mp member
  exact (sound.answered x among).ordered

theorem answered_alone (fine : r.isTroubled = false) : ∃ now,
    (r.demand.task none).body.solo now none (storeAt start events r.ended).committed =
      .ok (r.answer, (storeAt start events (r.ended + 1)).committed) := by
  obtain ⟨stamped, sound⟩ := run_stamped start events
  rw [← sound.records] at member
  obtain ⟨x, among, rfl⟩ := List.mem_map.mp member
  exact ⟨x.2, (sound.answered x among).alone fine⟩

theorem read_answered (o : Operation) (asks : r.demand.operation? = some o) (read : o.isRead = true)
    (outcome : Book → Ledger.Outcome)
    (solo : ∀ now book, (o.task none).body.solo now none book = .ok (outcome book, book)) :
    r.answer = r.demand.shows o (outcome (storeAt start events r.ended).committed) := by
  have fine : r.isTroubled = false := by simp [Record.isTroubled, Demand.isWrite, asks, read]
  obtain ⟨now, alone⟩ := answered_alone start events r member fine
  rw [demand_solo r.demand now _ o asks, solo] at alone
  exact (congrArg Prod.fst (Except.ok.inj alone)).symm

theorem balance_answered (id : AccountId) (asks : r.demand.operation? = some (.getBalance id)) :
    r.answer = r.demand.shows (.getBalance id)
      (.account (Ledger.balanceIn (storeAt start events r.ended).committed id)) :=
  read_answered start events r member _ asks rfl (fun book => .account (Ledger.balanceIn book id))
    fun now book => Ledger.get_balance_solo now book id

theorem entries_answered (id : AccountId) (asks : r.demand.operation? = some (.listEntries id)) :
    r.answer = r.demand.shows (.listEntries id)
      (.entries (Ledger.entriesIn (storeAt start events r.ended).committed id)) :=
  read_answered start events r member _ asks rfl (fun book => .entries (Ledger.entriesIn book id))
    fun now book => Ledger.list_entries_solo now book id

theorem read_success (id : AccountId) (reads : r.Reads id) :
    r.answer.isSuccess = ((storeAt start events r.ended).committed.account? id).isSome := by
  rcases reads with asks | asks
  · rw [balance_answered start events r member id asks, shows_success, Ledger.balanceIn]
    cases (storeAt start events r.ended).committed.account? id <;> rfl
  · rw [entries_answered start events r member id asks, shows_success, Ledger.entriesIn]
    cases (storeAt start events r.ended).committed.account? id <;> rfl

end Reading

-- Append-only history: what is committed at any moment of any history from the empty store is there ever after, in
-- the same order and under the same dates, and reads show as much.
theorem histories_only_grow (events : List Event) :
    (∀ earlier later, earlier ≤ later →
      (storeAt Store.empty events earlier).committed.entries <+: (storeAt Store.empty events later).committed.entries ∧
      ∀ a ∈ (storeAt Store.empty events earlier).committed.accounts,
        ∃ kept ∈ (storeAt Store.empty events later).committed.accounts, kept.id = a.id ∧ kept.created = a.created) ∧
    (∀ moment, (storeAt Store.empty events moment).committed.InOrder) ∧
    ∀ first ∈ (run Store.empty events).records, ∀ second ∈ (run Store.empty events).records,
      first.ended < second.started → ∀ id,
        (first.demand.operation? = some (.listEntries id) → second.demand.operation? = some (.listEntries id) →
          ∃ before after, first.answer = first.demand.shows (.listEntries id) (.entries before) ∧
            second.answer = second.demand.shows (.listEntries id) (.entries after) ∧
            ∀ list, before = .ok list → ∃ longer, after = .ok longer ∧ list <+: longer) ∧
        (first.Reads id → second.Reads id → first.answer.isSuccess = true → second.answer.isSuccess = true) := by
  have order : ∀ moment, (storeAt Store.empty events moment).committed.InOrder := fun moment =>
    run_in_order Store.empty (events.take moment) Book.empty_in_order
  have grows := store_at_extends Store.empty events
  refine ⟨?_, order, ?_⟩
  · intro earlier later ordered
    refine ⟨(grows earlier later ordered).entries, ?_⟩
    intro a member
    obtain ⟨kept, found, created⟩ :=
      (grows earlier later ordered).accounts a.id a (Book.account_found _ (order earlier) a member)
    exact ⟨kept, Book.account_mem _ _ _ found, Book.account_id _ _ _ found, created⟩
  · intro first firstMember second secondMember apart id
    have turn := turn_later Store.empty events second secondMember
    have grown := grows first.ended second.ended (by omega)
    constructor
    · intro firstAsks secondAsks
      refine ⟨_, _, entries_answered Store.empty events first firstMember id firstAsks,
        entries_answered Store.empty events second secondMember id secondAsks, ?_⟩
      exact Ledger.entries_grow _ _ grown id
    · intro firstReads secondReads
      rw [read_success Store.empty events first firstMember id firstReads,
        read_success Store.empty events second secondMember id secondReads]
      intro known
      obtain ⟨account, found⟩ := Option.isSome_iff_exists.mp known
      obtain ⟨kept, there, _⟩ := grown.accounts id account found
      rw [there]
      rfl

end History
end DoubleEntry
