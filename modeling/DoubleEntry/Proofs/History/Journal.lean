import DoubleEntry.Proofs.History.Books
import Mathlib

/-!
The shape of the journal. It is made of one block for each operation that succeeded, in the order of the answers:
one entry that opens an account, or the two sides of a transfer. Money comes in with the openings only.
-/

set_option autoImplicit false

namespace DoubleEntry

open Time (Stamp)

def Entry.posted (e : Entry) : NewEntry := ⟨e.account, e.amount, e.created⟩

namespace Record

def opens (r : Record) : Option NewAccount :=
  match r.demand.operation? with
  | some (.createAccount input) => some input
  | _ => none

def openingEntry (input : NewAccount) (now : Stamp) : NewEntry := ⟨input.id, Amount.round input.initialBalance, now⟩

def block (r : Record) (now : Stamp) : List NewEntry :=
  match r.demand.operation? with
  | some (.createAccount input) => [openingEntry input now]
  | some (.createTransfer input) => [Ledger.debitEntry now input, Ledger.creditEntry now input]
  | _ => []

def deposit (r : Record) : ℚ := (r.opens.map fun input => (Amount.round input.initialBalance).value).getD 0

end Record

namespace History

-- An account has one opening among the records, and what comes before has nothing to do with the account.
structure OpenedOnce (stamped : List (Record × Stamp)) (id : AccountId) (input : NewAccount) (now : Stamp)
    (before after : List (Record × Stamp)) (r : Record) : Prop where
  records : stamped = before ++ (r, now) :: after
  opening : r.opens = some input
  own : input.id = id
  once : ∀ x ∈ before ++ after, ∀ other, x.1.opens = some other → other.id ≠ id
  fresh : ∀ x ∈ before, ∀ e ∈ x.1.block x.2, e.account ≠ id

structure Journal (b : Book) (stamped : List (Record × Stamp)) : Prop where
  balanced : b.Balanced
  blocks : b.entries.map Entry.posted = stamped.flatMap fun x => x.1.block x.2
  openings : ∀ a ∈ b.accounts, ∃ input now before after r, OpenedOnce stamped a.id input now before after r
  known : ∀ x ∈ stamped, ∀ input, x.1.opens = some input → ∃ a ∈ b.accounts, a.id = input.id
  worth : b.worth = (stamped.map fun x => x.1.deposit).sum

theorem opened_once_append (stamped : List (Record × Stamp)) (x : Record × Stamp) (id : AccountId)
    (other : ∀ input, x.1.opens = some input → input.id ≠ id) (input : NewAccount) (now : Stamp)
    (before after : List (Record × Stamp)) (r : Record) (once : OpenedOnce stamped id input now before after r) :
    OpenedOnce (stamped ++ [x]) id input now before (after ++ [x]) r := by
  refine ⟨?_, once.opening, once.own, ?_, once.fresh⟩
  · rw [once.records, List.append_assoc, List.cons_append]
  · intro y member
    rw [← List.append_assoc] at member
    rcases List.mem_append.mp member with old | new
    · exact once.once y old
    · rw [List.mem_singleton.mp new]
      exact other

theorem journal_fresh (b : Book) (stamped : List (Record × Stamp)) (journal : Journal b stamped) (id : AccountId)
    (free : b.account? id = none) (x : Record × Stamp) (member : x ∈ stamped) (e : NewEntry)
    (inBlock : e ∈ x.1.block x.2) : e.account ≠ id := by
  have listed : e ∈ b.entries.map Entry.posted := by
    rw [journal.blocks]
    exact List.mem_flatMap.mpr ⟨x, member, inBlock⟩
  obtain ⟨entry, entryMember, rfl⟩ := List.mem_map.mp listed
  obtain ⟨owner, ownerMember, same⟩ := journal.balanced.owned entry entryMember
  intro own
  exact Book.free_account b id free owner ownerMember (same.trans own)

theorem journal_opened (b : Book) (stamped : List (Record × Stamp)) (journal : Journal b stamped) (r : Record)
    (now : Stamp) (input : NewAccount) (asks : r.demand.operation? = some (.createAccount input))
    (opening : b.Opening (Ledger.openingAccount now input)) :
    Journal (b.opened (Ledger.openingAccount now input)) (stamped ++ [(r, now)]) := by
  have opens : r.opens = some input := by rw [Record.opens, asks]
  have fresh := Book.free_account b input.id opening.free
  refine ⟨Book.opened_balanced b journal.balanced _ opening, ?_, ?_, ?_, ?_⟩
  · have block : r.block now = [Record.openingEntry input now] := by rw [Record.block, asks]
    rw [List.flatMap_append, ← journal.blocks, List.flatMap_singleton, block]
    exact List.map_append
  · intro a member
    rcases (Book.mem_insert _ a b.accounts).mp member with rfl | old
    · refine ⟨input, now, stamped, [], r, rfl, opens, rfl, ?_, ?_⟩
      · intro x earlier other opensOther same
        rw [List.append_nil] at earlier
        obtain ⟨owner, ownerMember, own⟩ := journal.known x earlier other opensOther
        exact fresh owner ownerMember (own.trans same)
      · exact journal_fresh b stamped journal input.id opening.free
    · obtain ⟨first, time, before, after, record, once⟩ := journal.openings a old
      refine ⟨first, time, before, after ++ [(r, now)], record, opened_once_append stamped _ a.id ?_ _ _ _ _ _ once⟩
      intro other opensOther
      rw [opens] at opensOther
      cases opensOther
      exact Ne.symm (fresh a old)
  · intro x member other opensOther
    rcases List.mem_append.mp member with earlier | new
    · obtain ⟨owner, ownerMember, own⟩ := journal.known x earlier other opensOther
      exact ⟨owner, (Book.mem_insert _ owner b.accounts).mpr (.inr ownerMember), own⟩
    · rw [List.mem_singleton.mp new, opens] at opensOther
      cases opensOther
      exact ⟨_, (Book.mem_insert _ _ b.accounts).mpr (.inl rfl), rfl⟩
  · have deposit : r.deposit = (Amount.round input.initialBalance).value := by
      rw [Record.deposit, opens]
      rfl
    rw [Book.opened_worth, journal.worth, List.map_append, List.sum_append]
    simp [deposit, Ledger.openingAccount]

theorem journal_moved (b : Book) (stamped : List (Record × Stamp)) (journal : Journal b stamped) (r : Record)
    (now : Stamp) (input : Transfer) (asks : r.demand.operation? = some (.createTransfer input))
    (reduced raised : Decimal) (debit : b.Posting reduced (Ledger.debitEntry now input))
    (credit : (b.post reduced (Ledger.debitEntry now input)).Posting raised (Ledger.creditEntry now input)) :
    Journal ((b.post reduced (Ledger.debitEntry now input)).post raised (Ledger.creditEntry now input))
      (stamped ++ [(r, now)]) := by
  have opens : r.opens = none := by rw [Record.opens, asks]
  have halfway := Book.post_balanced b journal.balanced reduced _ debit
  have ids : ((b.post reduced (Ledger.debitEntry now input)).post raised (Ledger.creditEntry now input)).accounts.map
      Account.id = b.accounts.map Account.id := by rw [Book.post_ids, Book.post_ids]
  refine ⟨Book.post_balanced _ halfway raised _ credit, ?_, ?_, ?_, ?_⟩
  · have block : r.block now = [Ledger.debitEntry now input, Ledger.creditEntry now input] := by
      rw [Record.block, asks]
    rw [List.flatMap_append, ← journal.blocks, List.flatMap_singleton, block]
    simp [Book.post, Entry.posted, Book.next]
  · intro a member
    have known : a.id ∈ b.accounts.map Account.id := by
      rw [← ids]
      exact List.mem_map_of_mem member
    obtain ⟨old, oldMember, same⟩ := List.mem_map.mp known
    obtain ⟨first, time, before, after, record, once⟩ := journal.openings old oldMember
    rw [← same]
    refine ⟨first, time, before, after ++ [(r, now)], record, opened_once_append stamped _ old.id ?_ _ _ _ _ _ once⟩
    intro other opensOther
    rw [opens] at opensOther
    cases opensOther
  · intro x member other opensOther
    rcases List.mem_append.mp member with earlier | new
    · obtain ⟨owner, ownerMember, own⟩ := journal.known x earlier other opensOther
      apply List.mem_map.mp
      rw [ids, ← own]
      exact List.mem_map_of_mem ownerMember
    · rw [List.mem_singleton.mp new, opens] at opensOther
      cases opensOther
  · have deposit : r.deposit = 0 := by
      rw [Record.deposit, opens]
      rfl
    rw [Book.post_worth _ halfway raised _ credit, Book.post_worth b journal.balanced reduced _ debit, journal.worth,
      List.map_append, List.sum_append]
    simp [deposit, Ledger.debitEntry, Ledger.creditEntry]

theorem opening_first (b : Book) (stamped : List (Record × Stamp)) (journal : Journal b stamped) (id : AccountId)
    (input : NewAccount) (now : Stamp) (before after : List (Record × Stamp)) (r : Record)
    (once : OpenedOnce stamped id input now before after r) :
    (b.entriesOf id).map Entry.posted =
      Record.openingEntry input now :: (after.flatMap fun x => x.1.block x.2).filter fun e => e.account == id := by
  have asks : r.demand.operation? = some (.createAccount input) := by
    have opening := once.opening
    rw [Record.opens] at opening
    split at opening
    · rename_i same
      cases opening
      exact same
    · cases opening
  have block : r.block now = [Record.openingEntry input now] := by rw [Record.block, asks]
  have nothing : (before.flatMap fun x => x.1.block x.2).filter (fun e => e.account == id) = [] := by
    apply List.filter_eq_nil_iff.mpr
    intro e member
    obtain ⟨x, earlier, inBlock⟩ := List.mem_flatMap.mp member
    simpa using once.fresh x earlier e inBlock
  have own : ((Record.openingEntry input now).account == id) = true := beq_iff_eq.mpr once.own
  have filtered : (b.entriesOf id).map Entry.posted = (b.entries.map Entry.posted).filter fun e => e.account == id := by
    rw [List.filter_map]
    rfl
  rw [filtered, journal.blocks, once.records, List.flatMap_append, List.filter_append, nothing, List.nil_append,
    List.flatMap_cons, block, List.singleton_append]
  exact List.filter_cons_of_pos own

theorem run_journal (events : List Event) :
    ∃ stamped, stamped.map Prod.fst = successes Store.empty events ∧ Journal (books Store.empty events) stamped := by
  induction events using List.reverseRecOn with
  | nil =>
      refine ⟨[], rfl, Book.empty_balanced, rfl, ?_, ?_, rfl⟩
      · intro a member
        cases member
      · intro x member
        cases member
  | append_singleton events e ih =>
      obtain ⟨stamped, records, journal⟩ := ih
      cases run_changed Store.empty events e with
      | kept same sameRecords =>
          rw [same, sameRecords]
          exact ⟨stamped, records, journal⟩
      | wrote r now o asks moreRecords writes =>
          refine ⟨stamped ++ [(r, now)], ?_, ?_⟩
          · rw [List.map_append, records, moreRecords]
            rfl
          · cases o with
            | createAccount input =>
                obtain ⟨opening, later⟩ := Ledger.account_opens now _ _ input writes
                rw [later]
                exact journal_opened _ stamped journal r now input asks opening
            | createTransfer input =>
                obtain ⟨reduced, raised, debit, credit, later⟩ :=
                  Ledger.transfer_posts now _ _ journal.balanced input writes
                rw [later]
                exact journal_moved _ stamped journal r now input asks reduced raised debit credit
            | getBalance id | listEntries id => cases writes

-- Conservation: what succeeded is the journal, block by block, and the openings are all the money there is.
theorem journal_is_blocks (events : List Event) :
    ∃ stamped : List (Record × Stamp),
      stamped.map Prod.fst = successes Store.empty events ∧
      (books Store.empty events).entries.map Entry.posted = (stamped.flatMap fun x => x.1.block x.2) ∧
      (∀ a ∈ (books Store.empty events).accounts, ∃ input now before after r,
        OpenedOnce stamped a.id input now before after r ∧
        ((books Store.empty events).entriesOf a.id).map Entry.posted =
          Record.openingEntry input now ::
            (after.flatMap fun x => x.1.block x.2).filter fun e => e.account == a.id) ∧
      (books Store.empty events).worth = (stamped.map fun x => x.1.deposit).sum := by
  obtain ⟨stamped, records, journal⟩ := run_journal events
  refine ⟨stamped, records, journal.blocks, ?_, journal.worth⟩
  intro a member
  obtain ⟨input, now, before, after, r, once⟩ := journal.openings a member
  exact ⟨input, now, before, after, r, once, opening_first _ stamped journal a.id input now before after r once⟩

end History
end DoubleEntry
