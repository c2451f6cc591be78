import DoubleEntry.Proofs.Book.Order
import DoubleEntry.Proofs.Decimal.Value
import DoubleEntry.Proofs.Store.Turn

/-!
The traces that calls leave in the copy a unit of work has of the books, whatever is in it. All checks come before all
writes: a call that fails, or finds nothing to change, leaves the copy as it was, and the others change no more than
they say.
-/

set_option autoImplicit false

namespace DoubleEntry.Units

open Time (Stamp)

section Traces

variable (copy : Book)

-- The accounts that exist among those asked for, each once.
structure Fetched (ids : List AccountId) (found : List Account) : Prop where
  existing : ∀ a, a ∈ found ↔ a.id ∈ ids ∧ copy.account? a.id = some a
  once : (found.map Account.id).Nodup
  -- However often and in which order two accounts are asked for, two are found if both exist.
  both : ∀ x y, x ≠ y → (∀ id, id ∈ ids ↔ id = x ∨ id = y) →
    (found.length = 2 ↔ (copy.account? x).isSome = true ∧ (copy.account? y).isSome = true)

-- One account has another balance and date, and nothing else is different.
structure Touched (a : Account) (balance : Decimal) (now : Stamp) (after : Book) : Prop where
  account : after.account? a.id = some { a with balance, modified := now }
  others : ∀ other, other ≠ a.id → after.account? other = copy.account? other
  ids : after.accounts.map Account.id = copy.accounts.map Account.id
  entries : after.entries = copy.entries
  last : after.lastEntry = copy.lastEntry

structure Added (a : Account) (after : Book) : Prop where
  free : copy.account? a.id = none
  account : after.account? a.id = some a
  others : ∀ other, other ≠ a.id → after.account? other = copy.account? other
  one : after.accounts.Perm (a :: copy.accounts)
  entries : after.entries = copy.entries
  last : after.lastEntry = copy.lastEntry

structure Appended (e : NewEntry) (entry : Entry) (after : Book) : Prop where
  fresh : entry = ⟨copy.lastEntry + 1, e.account, e.amount, e.created⟩
  entries : after.entries = copy.entries ++ [entry]
  last : after.lastEntry = copy.lastEntry + 1
  accounts : after.accounts = copy.accounts

inductive Trace : (c : Call) → Except StoreError c.Reply → Book → Prop
  | failed (c : Call) (e : StoreError) : Trace c (.error e) copy
  | fetched (ids : List AccountId) (found : List Account) (fetched : Fetched copy ids found) :
      Trace (.getAccounts ids) (.ok found) copy
  | notDebited (id : AccountId) (amount : Decimal) (now : Stamp) : Trace (.debit id amount now) (.ok 0) copy
  | debited (amount : Decimal) (now : Stamp) (a : Account) (balance : Decimal) (after : Book)
      (found : copy.account? a.id = some a) (enough : amount.value ≤ a.balance.value)
      (rest : a.balance.sub? amount = some balance) (touched : Touched copy a balance now after) :
      Trace (.debit a.id amount now) (.ok 1) after
  | notCredited (id : AccountId) (amount : Decimal) (now : Stamp) : Trace (.credit id amount now) (.ok 0) copy
  | credited (amount : Decimal) (now : Stamp) (a : Account) (balance : Decimal) (after : Book)
      (found : copy.account? a.id = some a) (total : a.balance.add? amount = some balance)
      (touched : Touched copy a balance now after) : Trace (.credit a.id amount now) (.ok 1) after
  | created (a : Account) (after : Book) (added : Added copy a after) : Trace (.createAccount a) (.ok a) after
  | appended (e : NewEntry) (entry : Entry) (after : Book) (appended : Appended copy e entry after) :
      Trace (.append e) (.ok entry) after

-- A call that a unit of work makes, in one turn: it is answered, it has to wait with its copy at hand, or it panics,
-- and the unit of work with it. Nobody else sees anything of it.
inductive Called (s : Store) (started : Wait) (c : Call) : Stop (Except StoreError c.Reply) × Store → Prop
  | answered (reply : Except StoreError c.Reply) (after : Book) (later : Store) (trace : Trace copy c reply after)
      (keyed : after.Keyed) (kept : later.committed = s.committed) : Called s started c (.finished reply (some after), later)
  | waiting (wait : Wait) (later : Store) (slow : started = .fresh → s.control.latency ≠ 0)
      (kept : later.committed = s.committed) :
      Called s started c (.paused (.call c .done) wait (some copy), later)
  | panicked (e : ArithmeticError) (later : Store) (id : AccountId) (amount : Decimal) (now : Stamp) (a : Account)
      (debit : c = .debit id amount now) (found : copy.account? id = some a) (enough : amount.value ≤ a.balance.value)
      (overflow : a.balance.sub? amount = none) (kept : later.committed = s.committed) :
      Called s started c (.crashed e, later)

end Traces

section Answers

variable (copy : Book)

theorem accounts_fetched (keyed : copy.Keyed) (ids : List AccountId) : Fetched copy ids (copy.accountsAmong ids) := by
  have existing : ∀ a, a ∈ copy.accountsAmong ids ↔ a.id ∈ ids ∧ copy.account? a.id = some a := by
    intro a
    rw [Book.accountsAmong, List.mem_filter, List.contains_iff_mem, and_comm]
    refine and_congr_right fun _ => ⟨Book.keyed_found copy keyed a, Book.account_mem copy a.id a⟩
  have once : ((copy.accountsAmong ids).map Account.id).Nodup :=
    (List.filter_sublist.map Account.id).nodup (Book.keyed_nodup copy keyed)
  refine ⟨existing, once, ?_⟩
  intro x y different asked
  have isPair : ({x, y} : Finset AccountId).card = 2 := Finset.card_pair different
  -- The ids that are found are those of the two that exist.
  have same : ((copy.accountsAmong ids).map Account.id).toFinset =
      ({x, y} : Finset AccountId).filter fun id => (copy.account? id).isSome = true := by
    ext id
    rw [List.mem_toFinset, List.mem_map, Finset.mem_filter, Finset.mem_insert, Finset.mem_singleton, ← asked]
    constructor
    · rintro ⟨a, member, rfl⟩
      obtain ⟨among, found⟩ := (existing a).mp member
      exact ⟨among, by rw [found]; rfl⟩
    · rintro ⟨among, real⟩
      obtain ⟨a, found⟩ := Option.isSome_iff_exists.mp real
      obtain rfl := Book.account_id copy id a found
      exact ⟨a, (existing a).mpr ⟨among, found⟩, rfl⟩
  calc (copy.accountsAmong ids).length = 2
      ↔ (({x, y} : Finset AccountId).filter fun id => (copy.account? id).isSome = true).card =
          ({x, y} : Finset AccountId).card := by
        rw [← same, List.toFinset_card_of_nodup once, List.length_map, isPair]
    _ ↔ (copy.account? x).isSome = true ∧ (copy.account? y).isSome = true := by
        rw [Finset.card_filter_eq_iff]
        simp

theorem update_touched (a : Account) (found : copy.account? a.id = some a) (balance : Decimal) (now : Stamp) :
    Touched copy a balance now (copy.update a.id fun a => { a with balance, modified := now }) := by
  refine ⟨?_, ?_, Book.update_ids copy a.id _ fun _ => rfl, rfl, rfl⟩
  · rw [Book.account_update copy a.id a.id (fun a => { a with balance, modified := now }) (fun _ => rfl), found]
    simp
  · intro other different
    exact Book.account_kept copy a.id other _ (fun _ => rfl) different.symm

theorem create_added (a reply : Account) (after : Book) (created : copy.create a = .ok (reply, after)) :
    reply = a ∧ Added copy a after := by
  obtain ⟨_, _, free, same, rfl⟩ := Book.create_ok copy a reply after created
  have found := fun id => Book.find_insert a copy.accounts id (Book.free_account copy a.id free)
  refine ⟨same, free, ?_, ?_, Book.insert_perm a copy.accounts, rfl, rfl⟩
  · exact (found a.id).trans (if_pos rfl)
  · intro other different
    exact (found other).trans (if_neg different.symm)

theorem append_appended (e : NewEntry) (entry : Entry) (after : Book) (appended : copy.append e = .ok (entry, after)) :
    Appended copy e entry after := by
  obtain ⟨_, rfl, rfl⟩ := Book.append_ok copy e entry after appended
  exact ⟨rfl, rfl, rfl, rfl⟩

theorem answer_trace (keyed : copy.Keyed) (c : Call) (isWork : c.isWork = true) (reply : Except StoreError c.Reply)
    (after : Book) (answered : copy.answer c = .ok (reply, after)) : Trace copy c reply after := by
  cases c with
  | getAccounts ids =>
      cases answered
      exact .fetched ids _ (accounts_fetched copy keyed ids)
  | createAccount a =>
      rcases Book.written_cases copy _ reply after (Except.ok.inj answered) with
        ⟨e, rfl, rfl⟩ | ⟨opened, rfl, created⟩
      · exact .failed _ e
      · obtain ⟨same, added⟩ := create_added copy a opened after created
        rw [same]
        exact .created a after added
  | debit id amount now =>
      cases debited : copy.debit id amount now with
      | error e => simp [Book.answer, debited, Except.map] at answered
      | ok result =>
          simp only [Book.answer, debited, Except.map, Except.ok.injEq, Prod.mk.injEq] at answered
          obtain ⟨rfl, rfl⟩ := answered
          rcases Book.debit_ok copy id amount now _ _ debited with
            ⟨none, same⟩ | ⟨a, balance, found, enough, rest, one, new⟩
          · rw [none, same]
            exact .notDebited id amount now
          · rw [one, new]
            obtain rfl := Book.account_id copy id a found
            exact .debited amount now a balance _ found ((Decimal.num_le _ _).mp enough) rest
              (update_touched copy a found balance now)
  | credit id amount now =>
      rcases Book.written_cases copy _ reply after (Except.ok.inj answered) with
        ⟨e, rfl, rfl⟩ | ⟨n, rfl, credited⟩
      · exact .failed _ e
      · rcases Book.credit_ok copy id amount now n after credited with
          ⟨rfl, rfl⟩ | ⟨a, balance, found, total, _, rfl, rfl⟩
        · exact .notCredited id amount now
        · obtain rfl := Book.account_id copy id a found
          exact .credited amount now a balance _ found total (update_touched copy a found balance now)
  | append e =>
      rcases Book.written_cases copy _ reply after (Except.ok.inj answered) with
        ⟨f, rfl, rfl⟩ | ⟨entry, rfl, appended⟩
      · exact .failed _ f
      · exact .appended e entry after (append_appended copy e entry after appended)
  | getAccount _ | listEntries _ | begin | commit | rollback => cases isWork

theorem answer_panics (c : Call) (e : ArithmeticError) (refused : copy.answer c = .error e) :
    ∃ id amount now a, c = .debit id amount now ∧ copy.account? id = some a ∧ amount.value ≤ a.balance.value ∧
      a.balance.sub? amount = none := by
  cases c with
  | debit id amount now =>
      rw [Book.answer, Book.debit] at refused
      cases found : copy.account? id with
      | none =>
          rw [found] at refused
          cases refused
      | some a =>
          simp only [found] at refused
          by_cases enough : amount.numLe a.balance = true
          · rw [if_pos enough] at refused
            cases rest : a.balance.sub? amount with
            | none => exact ⟨id, amount, now, a, rfl, found, (Decimal.num_le _ _).mp enough, rest⟩
            | some balance =>
                rw [rest] at refused
                cases refused
          · rw [if_neg enough] at refused
            cases refused
  | getAccounts _ | createAccount _ | credit _ _ _ | append _ | getAccount _ | listEntries _ | begin | commit
  | rollback => cases refused

theorem answer_keyed (keyed : copy.Keyed) (c : Call) (reply : Except StoreError c.Reply) (after : Book)
    (answered : copy.answer c = .ok (reply, after)) : after.Keyed := by
  refine Book.answer_after Book.Keyed copy keyed (Book.create_keyed copy keyed) ?_ ?_ ?_ c reply after answered
  · exact Book.debit_after Book.Keyed copy keyed (Book.update_keyed copy keyed)
  · exact Book.credit_after Book.Keyed copy keyed (Book.update_keyed copy keyed)
  · intro e entry later appended
    obtain ⟨_, _, rfl⟩ := Book.append_ok copy e entry later appended
    exact keyed

end Answers

-- Work does not wait for the lock, for the unit of work has it.
theorem work_slow (s : Store) (id : Nat) (c : Call) (isWork : c.isWork = true) (later : Wait)
    (waits : s.approach id c .fresh = .wait later) : s.control.latency ≠ 0 := by
  intro quick
  have enters : s.enterWork id c = .go := by
    cases c with
    | getAccounts ids | createAccount account | debit account amount now | credit account amount now | append e => rfl
    | getAccount _ | listEntries _ | begin | commit | rollback => cases isWork
  rw [Store.approach] at waits
  cases failure : s.control.failure? c with
  | some e =>
      rw [failure] at waits
      cases waits
  | none =>
      simp only [failure] at waits
      rw [if_pos quick, enters] at waits
      cases waits

/-- Whatever a unit of work asks for, whatever is in its copy, and whatever fails: a call leaves no trace but its own. -/
theorem calls_leave_no_trace (s : Store) (id : Nat) (wait : Wait) (copy : Book) (keyed : copy.Keyed) (c : Call)
    (isWork : c.isWork = true) : Called copy s wait c (s.run id (.call c .done) wait (some copy)) := by
  rw [Store.run]
  rcases Store.approach_cases s id c wait with ⟨e, fails, _⟩ | ⟨going, _⟩ | ⟨later, waits⟩
  · rw [fails, Store.failed, (work_neither_reads_nor_ends c isWork).2]
    exact .answered _ copy s (.failed c e) keyed rfl
  · rw [going, Store.perform_work s id (some copy) c isWork, Option.getD_some]
    cases answered : copy.answer c with
    | error e =>
        obtain ⟨account, amount, now, a, debit, found, enough, overflow⟩ := answer_panics copy c e answered
        exact .panicked e s account amount now a debit found enough overflow rfl
    | ok result =>
        obtain ⟨reply, after⟩ := result
        exact .answered reply after s (answer_trace copy keyed c isWork reply after answered)
          (answer_keyed copy keyed c reply after answered) rfl
  · rw [waits]
    refine .waiting later (s.enqueue id later) ?_ (Store.enqueue_committed s id later)
    rintro rfl
    exact work_slow s id c isWork later waits

-- A copy that no ledger comes to: money without entries, and a counter ahead of the journal.
theorem calls_leave_no_trace_foreign :
    let five := Decimal.ofWhole 5 (by decide)
    let two := Decimal.ofWhole 2 (by decide)
    let three := Decimal.ofWhole 3 (by decide)
    let early : Stamp := .tick 0
    let late : Stamp := .tick 9
    let copy : Book := ⟨[⟨-3, two, early, early⟩, ⟨7, five, early, early⟩], [], 41⟩
    copy.Keyed ∧ Call.isWork (.debit 7 two late) = true ∧
      Called copy Store.empty .fresh (.debit 7 two late)
        (Store.empty.run 0 (.call (.debit 7 two late) .done) .fresh (some copy)) ∧
      copy.debit 7 two late = .ok (1, ⟨[⟨-3, two, early, early⟩, ⟨7, three, early, late⟩], [], 41⟩) := by
  intro five two three early late copy
  have keyed : copy.Keyed := by decide
  exact ⟨keyed, rfl, calls_leave_no_trace Store.empty 0 .fresh copy keyed (.debit 7 two late) rfl, by decide +kernel⟩

end DoubleEntry.Units
