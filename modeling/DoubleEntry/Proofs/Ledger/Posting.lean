import DoubleEntry.Proofs.Book.Balanced
import DoubleEntry.Proofs.Ledger.Effect
import Mathlib

/-!
The ledger's operations in terms of the books: a new account is opened, and a transfer is two postings of one
amount, one for each side. So whatever an operation does keeps the books balanced.
-/

set_option autoImplicit false

namespace DoubleEntry.Ledger

open Time (Stamp)

theorem not_negative (d : Decimal) (accepted : d.numLt Decimal.zero = false) : 0 ≤ d.value := by
  apply not_lt.mp
  intro negative
  have less := (Decimal.num_lt d Decimal.zero).mpr (by rw [Decimal.value_zero]; exact negative)
  rw [accepted] at less
  cases less

theorem accepted_nonneg (o : Operation) (amount : Decimal) (own : o.amount? = some amount)
    (accepted : o.rejection? = none) : 0 ≤ amount.value := by
  have unrejected : ∀ (d : Decimal) (e : LedgerError) (rest : Option LedgerError),
      (if d.numLt Decimal.zero then some e else rest) = none → 0 ≤ (Amount.round d).value := by
    intro d e rest passes
    refine Decimal.round_nonneg d (not_negative d ?_)
    cases negative : d.numLt Decimal.zero with
    | false => rfl
    | true =>
        rw [if_pos negative] at passes
        cases passes
  cases o with
  | createAccount input | createTransfer input =>
      cases own
      exact unrejected _ _ _ accepted
  | getBalance id | listEntries id => cases own

theorem accepted_apart (input : Transfer) (accepted : (Operation.createTransfer input).rejection? = none) :
    input.source ≠ input.destination := by
  intro same
  simp only [Operation.rejection?, if_pos same] at accepted
  split at accepted <;> cases accepted

section Postings

variable (now : Stamp) (book later : Book)

def openingAccount (input : NewAccount) : Account := ⟨input.id, Amount.round input.initialBalance, now, now⟩

def debitEntry (input : Transfer) : NewEntry := ⟨input.source, (Amount.round input.amount).neg, now⟩

def creditEntry (input : Transfer) : NewEntry := ⟨input.destination, Amount.round input.amount, now⟩

theorem account_opens (input : NewAccount) (writes : Writes now book later (.createAccount input)) :
    book.Opening (openingAccount now input) ∧ later = book.opened (openingAccount now input) := by
  cases writes with
  | opened _ account entry mid accepted created appended =>
      obtain ⟨positive, below, free, _, rfl⟩ := Book.create_ok book _ account mid created
      obtain ⟨_, rfl, rfl⟩ := Book.append_ok _ _ entry later appended
      exact ⟨⟨free, positive, Decimal.round_money _ below, accepted_nonneg _ _ rfl accepted⟩, rfl⟩

theorem debit_posting (balanced : book.Balanced) (input : Transfer) (a : Account) (reduced : Decimal)
    (money : (Amount.round input.amount).IsMoney) (nonneg : 0 ≤ (Amount.round input.amount).value)
    (found : book.account? input.source = some a) (enough : (Amount.round input.amount).numLe a.balance = true)
    (difference : a.balance.sub? (Amount.round input.amount) = some reduced) :
    book.Posting reduced (debitEntry now input) := by
  obtain ⟨moneyA, _⟩ := Book.balanced_money book balanced a (Book.account_mem book _ a found)
  obtain ⟨scale, value⟩ := Decimal.sub_exact a.balance _ reduced moneyA money difference
  have covered : (Amount.round input.amount).value ≤ a.balance.value := (Decimal.num_le _ _).mp enough
  have below : a.balance.value < 10 ^ 23 := lt_of_le_of_lt (le_abs_self _) moneyA.below
  refine ⟨⟨a, found, ?_⟩, scale, money.scale, ?_, ?_⟩
  · rw [value, debitEntry, Decimal.value_neg, sub_eq_add_neg]
  · rw [value]
    exact sub_nonneg.mpr covered
  · rw [value]
    exact lt_of_le_of_lt (sub_le_self _ nonneg) below

theorem credit_posting (balanced : book.Balanced) (input : Transfer) (a : Account) (raised : Decimal)
    (money : (Amount.round input.amount).IsMoney) (nonneg : 0 ≤ (Amount.round input.amount).value)
    (found : book.account? input.destination = some a)
    (sum : a.balance.add? (Amount.round input.amount) = some raised) (below : Amount.isBelowLimit raised = true) :
    book.Posting raised (creditEntry now input) := by
  obtain ⟨moneyA, nonnegA⟩ := Book.balanced_money book balanced a (Book.account_mem book _ a found)
  obtain ⟨scale, value⟩ := Decimal.add_exact a.balance _ raised moneyA money sum
  refine ⟨⟨a, found, value⟩, scale, money.scale, ?_, ?_⟩
  · rw [value]
    exact add_nonneg nonnegA nonneg
  · exact lt_of_le_of_lt (le_abs_self _) ((below_limit raised).mp below)

theorem transfer_posts (balanced : book.Balanced) (input : Transfer)
    (writes : Writes now book later (.createTransfer input)) :
    ∃ reduced raised, book.Posting reduced (debitEntry now input) ∧
      (book.post reduced (debitEntry now input)).Posting raised (creditEntry now input) ∧
      later = (book.post reduced (debitEntry now input)).post raised (creditEntry now input) := by
  cases writes with
  | moved _ debited credited left right reducedBook raisedBook mid accepted debit enough credit present first second =>
      have nonneg := accepted_nonneg _ _ rfl accepted
      obtain ⟨below, rfl, rfl⟩ := Book.append_ok mid _ right later second
      obtain ⟨_, rfl, rfl⟩ := Book.append_ok raisedBook _ left mid first
      have money := Decimal.round_money input.amount below
      rcases Book.debit_ok book _ _ now debited reducedBook debit with
        ⟨none, _⟩ | ⟨a, reduced, found, covered, difference, _, rfl⟩
      · exact absurd none enough
      have posted := debit_posting now book balanced input a reduced money nonneg found covered difference
      have still := Book.post_balanced book balanced reduced _ posted
      rcases Book.credit_ok _ _ _ now credited raisedBook credit with
        ⟨none, _⟩ | ⟨other, raised, foundOther, sum, belowSum, _, rfl⟩
      · exact absurd none present
      have postedOther := credit_posting now _ still input other raised money nonneg foundOther sum belowSum
      exact ⟨reduced, raised, posted, postedOther, rfl⟩

theorem transfer_moves (balanced : book.Balanced) (input : Transfer)
    (writes : Writes now book later (.createTransfer input)) :
    later.worth = book.worth ∧ ∃ new, later.entries = book.entries ++ new ∧ new.length = 2 := by
  obtain ⟨reduced, raised, debit, credit, rfl⟩ := transfer_posts now book later balanced input writes
  have between := Book.post_balanced book balanced reduced _ debit
  refine ⟨?_, [_, _], List.append_assoc .., rfl⟩
  rw [Book.post_worth _ between raised _ credit, Book.post_worth book balanced reduced _ debit]
  simp only [debitEntry, creditEntry, Decimal.value_neg]
  ring

theorem writes_balanced (balanced : book.Balanced) (o : Operation) (writes : Writes now book later o) :
    later.Balanced := by
  cases o with
  | createAccount input =>
      obtain ⟨opening, rfl⟩ := account_opens now book later input writes
      exact Book.opened_balanced book balanced _ opening
  | createTransfer input =>
      obtain ⟨reduced, raised, debit, credit, rfl⟩ := transfer_posts now book later balanced input writes
      exact Book.post_balanced _ (Book.post_balanced book balanced reduced _ debit) raised _ credit
  | getBalance id | listEntries id => cases writes

end Postings

end DoubleEntry.Ledger
