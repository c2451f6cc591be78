import DoubleEntry.Proofs.Amount.Rounding
import DoubleEntry.Proofs.Ledger.Verdict

/-!
What the opening of an account comes to, decided by a list of checks as a transfer is. The row of an account is checked
before it is looked whether its id is taken, so that a bad id and a balance that is too large are told first.
-/

set_option autoImplicit false

namespace DoubleEntry

open Time (Stamp)

-- It is the balance that was asked for that reaches the limit, and not what it is rounded to.
theorem Amount.round_reaches (d : Decimal) : 10 ^ 23 ≤ (round d).value ↔ 10 ^ 23 ≤ d.value := by
  by_cases nonneg : 0 ≤ d.value
  · have below := round_below d
    rw [abs_of_nonneg nonneg, abs_of_nonneg (Decimal.round_nonneg d nonneg)] at below
    rw [← not_lt, below, not_lt]
  · have nonpos := round_nonpos d (le_of_not_ge nonneg)
    exact iff_of_false (fun reached => by linarith) (fun reached => by linarith)

theorem Book.create_large (b : Book) (id : AccountId) (amount : Decimal) (now : Stamp) (high : ¬ id < 1)
    (large : 10 ^ 23 ≤ |amount.value|) : b.create ⟨id, amount, now, now⟩ = .error (overflow "balance" amount) := by
  have tooMuch : Amount.isBelowLimit amount = false := by
    apply eq_false_of_ne_true
    rw [below_limit, not_lt]
    exact large
  simp only [create, if_neg high, tooMuch, Bool.not_false, if_true]

namespace Ledger

section Checks

variable (faults : Control) (context : String) (book : Book) (id : AccountId) (balance : Decimal)

def insertChecks : List (Option LedgerError) :=
  [faultAt faults context "insert account" .createAccount,
    if id < 1 then
      some (failedAt context "insert account"
        (.backend s!"check constraint chk_account_id_positive violated: account_id={id}"))
    else none,
    if 10 ^ 23 ≤ balance.value then some (failedAt context "insert account" (Book.overflow "balance" balance)) else none,
    if book.account? id = none then none else some (.alreadyExists id),
    faultAt faults context "append ledger entry" .appendEntry]

def accountChecks (input : NewAccount) : List (Option LedgerError) :=
  (if input.initialBalance.value < 0 then some .negativeBalance else none) ::
  faultAt faults s!"create account {input.id}" "begin transaction" .begin ::
  (insertChecks faults s!"create account {input.id}" book input.id (Amount.round input.initialBalance) ++
    [faultAt faults s!"create account {input.id}" "commit transaction" .commit])

variable (now : Stamp)

theorem insert_account_decides (nonneg : 0 ≤ balance.value) (scaled : balance.value < 10 ^ 23 → balance.scale = 5) :
    Decides faults now (insertAccount context id balance) book (insertChecks faults context book id balance)
      (fun a later => a = ⟨id, balance, now, now⟩ ∧ later = book.opened a) := by
  rw [insertAccount, insertChecks]
  apply decides_clock
  have refused := fun e checks (answered : book.create ⟨id, balance, now, now⟩ = .error e) =>
    refused_decides faults now context book (fun a later => a = (⟨id, balance, now, now⟩ : Account) ∧ later = book.opened a)
      (.createAccount ⟨id, balance, now, now⟩) .createAccount rfl "insert account" checks book (insertFailed context id) rfl
      (fun account => attempt (.append ⟨id, balance, now⟩) (failedAt context "append ledger entry") fun _ =>
        .done (.ok account)) e (by rw [Book.answer, answered]; rfl)
  by_cases low : id < 1
  · rw [if_pos low]
    exact refused _ _ (if_pos low) rfl
  by_cases large : 10 ^ 23 ≤ balance.value
  · rw [if_neg low, if_pos large]
    exact refused _ _ (book.create_large id balance now low (le_trans large (le_abs_self _))) rfl
  have money : balance.IsMoney := ⟨scaled (not_le.mp large), by rw [abs_of_nonneg nonneg]; exact not_le.mp large⟩
  rw [if_neg low, if_neg large]
  by_cases free : book.account? id = none
  · rw [if_pos free]
    have made : book.answer (.createAccount ⟨id, balance, now, now⟩) = .ok (.ok ⟨id, balance, now, now⟩,
        { book with accounts := Book.insertAccount ⟨id, balance, now, now⟩ book.accounts }) := by
      rw [Book.answer, book.create_free id balance now low money free]
      rfl
    have appended := fun b : Book => b.append_done id balance now money
    refine attempt_decides faults now context book _ _ .createAccount rfl _ _ _ (insertFailed context id) rfl _ _ made ?_
    iterate 3 apply decides_passed
    refine attempt_decides faults now context _ _ _ .appendEntry rfl _ _ _ _ rfl _ _ (by rw [Book.answer, appended]; rfl) ?_
    exact decides_ok faults now _ _ _ ⟨rfl, rfl⟩
  · obtain ⟨a, found⟩ := Option.ne_none_iff_exists'.mp free
    obtain ⟨detail, taken⟩ := book.create_taken id balance now low money a found
    rw [if_neg free]
    exact refused _ _ taken rfl

end Checks

section Outcome

variable (checks : List (Option LedgerError)) (now : Stamp) (book : Book) (input : NewAccount)

/-- How the opening of an account ends: as the checks decide, with the account and its one entry or with nothing new. -/
structure Opens (outcome : Outcome) (later : Book) : Prop where
  refused : ∀ e, firstOf checks = .error e → outcome = .account (.error e) ∧ later = book
  opened : firstOf checks = .ok () →
    outcome = .account (.ok ⟨input.id, Amount.round input.initialBalance, now, now⟩) ∧
    later = book.opened ⟨input.id, Amount.round input.initialBalance, now, now⟩

theorem opens_passed (outcome : Outcome) (later : Book) (opens : Opens checks now book input outcome later) :
    Opens (none :: checks) now book input outcome later := ⟨opens.refused, opens.opened⟩

theorem opens_as_told (r : Result Account) (later : Book) (told : verdict r = firstOf checks)
    (good : ∀ a, r = .ok a → a = ⟨input.id, Amount.round input.initialBalance, now, now⟩ ∧ later = book.opened a)
    (kept : ∀ e, r = .error e → later = book) : Opens checks now book input (.account r) later := by
  cases r with
  | error e =>
      refine ⟨fun cause first => ?_, fun passed => ?_⟩
      · rw [← told] at first
        cases first
        exact ⟨rfl, kept e rfl⟩
      · rw [← told] at passed
        cases passed
  | ok a =>
      obtain ⟨rfl, ends⟩ := good a rfl
      refine ⟨fun e first => ?_, fun _ => ⟨rfl, ends⟩⟩
      rw [← told] at first
      cases first

theorem account_trial (faults : Control) (lines : List LogLine) :
    ∃ x, ((Operation.createAccount input).task none).body.trial faults now none book lines = .ok x ∧
      Opens (accountChecks faults book input) now book input x.answer x.book := by
  have numLt : input.initialBalance.numLt Decimal.zero = true ↔ input.initialBalance.value < 0 := by
    rw [Decimal.num_lt, Decimal.value_zero]
  rw [accountChecks]
  by_cases negative : input.initialBalance.value < 0
  · have refused : (Operation.createAccount input).rejection? = some .negativeBalance := if_pos (numLt.mpr negative)
    rw [if_pos negative, rejected_task none _ _ refused]
    refine ⟨_, rfl, ?_, nofun⟩
    intro e first
    cases first
    exact ⟨rfl, rfl⟩
  · have passes : (Operation.createAccount input).rejection? = none := if_neg (mt numLt.mp negative)
    have nonneg := Decimal.round_nonneg _ (not_lt.mp negative)
    have scaled : (Amount.round input.initialBalance).value < 10 ^ 23 → (Amount.round input.initialBalance).scale = 5 := by
      intro below
      apply (Amount.round_small _ _).1
      rw [← Amount.round_below, abs_of_nonneg nonneg]
      exact below
    rw [if_neg negative, Operation.task, accepted_account none input passes]
    obtain ⟨r, x, tried, answer, told, good, kept⟩ := unit_decides faults now s!"create account {input.id}" book _ _
      (insert_account_works _ _ _) "create account" (accountCreated input.id) Outcome.account _
      (insert_account_decides faults s!"create account {input.id}" book input.id _ now nonneg scaled) lines
    exact ⟨x, tried, opens_passed _ now book input _ _ (answer ▸ opens_as_told _ now book input r x.book told good kept)⟩

end Outcome

end Ledger
end DoubleEntry
