import DoubleEntry.Proofs.Book.SoloStore
import DoubleEntry.Proofs.Ledger.Trial

/-!
What a transfer comes to, decided by a list of checks. They are made in the order of the list and the first one that
fails is told; if none does, the amount has been moved and nothing else has changed. What fails leaves the books as
they were, also if that cannot be rolled back.
-/

set_option autoImplicit false

namespace DoubleEntry

open Time (Stamp)

namespace Book

def held (b : Book) (id : AccountId) : ℚ := ((b.account? id).map fun a => a.balance.value).getD 0

/-- Books on which an amount has been moved: two balances and two entries. -/
structure Moved (b : Book) (t : Transfer) (now : Stamp) (later : Book) : Prop where
  accounts : ∃ reduced raised : Decimal,
    reduced.value = b.held t.source - (Amount.round t.amount).value ∧
    raised.value = b.held t.destination + (Amount.round t.amount).value ∧
    later.accounts = b.accounts.map fun a =>
      if a.id = t.source then { a with balance := reduced, modified := now }
      else if a.id = t.destination then { a with balance := raised, modified := now }
      else a
  entries : later.entries = b.entries ++
    [⟨b.lastEntry + 1, t.source, (Amount.round t.amount).neg, now⟩,
      ⟨b.lastEntry + 2, t.destination, Amount.round t.amount, now⟩]
  counter : later.lastEntry = b.lastEntry + 2

theorem two_found (b : Book) (tidy : b.Tidy) (x y : AccountId) (different : x ≠ y) :
    (b.accountsAmong [x, y]).length < 2 ↔ b.account? x = none ∨ b.account? y = none := by
  have absent : ∀ id, id ∉ b.accounts.map Account.id ↔ b.account? id = none := by
    intro id
    rw [← account_missing, position, Option.map_eq_none_iff]
  rw [accountsAmong, both_found Account.id b.accounts x y tidy.distinct different, absent, absent]

theorem held_account (b : Book) (id : AccountId) (a : Account) (found : b.account? id = some a) :
    b.held id = a.balance.value := by
  rw [held, found]
  rfl

theorem posts_moved (b : Book) (t : Transfer) (now : Stamp) (reduced raised : Decimal)
    (different : t.source ≠ t.destination)
    (less : reduced.value = b.held t.source - (Amount.round t.amount).value)
    (more : raised.value = b.held t.destination + (Amount.round t.amount).value) :
    b.Moved t now ((b.post reduced (Ledger.debitEntry now t)).post raised (Ledger.creditEntry now t)) := by
  refine ⟨⟨reduced, raised, less, more, ?_⟩, List.append_assoc _ _ _, rfl⟩
  change List.map _ (List.map _ b.accounts) = _
  rw [List.map_map]
  apply List.map_congr_left
  intro a _
  by_cases source : a.id = t.source
  · have other : a.id ≠ t.destination := fun same => different (source.symm.trans same)
    simp [Ledger.debitEntry, Ledger.creditEntry, source, different]
  · simp [Ledger.debitEntry, Ledger.creditEntry, source]

end Book

namespace Ledger

def firstOf (checks : List (Option LedgerError)) : Result Unit :=
  match checks.findSome? id with
  | some e => .error e
  | none => .ok ()

theorem first_passed (checks : List (Option LedgerError)) : firstOf (none :: checks) = firstOf checks := rfl

theorem first_append (checks more : List (Option LedgerError)) :
    firstOf (checks ++ more) =
      match firstOf checks with
      | .ok _ => firstOf more
      | .error e => .error e := by
  simp only [firstOf, List.findSome?_append]
  cases checks.findSome? id <;> rfl

def faultAt (faults : Control) (context step : String) (point : FailPoint) : Option LedgerError :=
  if faults.faults.contains point then some (failedAt context step point.error) else none

theorem failure_at (faults : Control) (c : Call) (point : FailPoint) (own : c.failPoint? = some point) :
    faults.failure? c = if faults.faults.contains point then some point.error else none := by
  rw [Control.failure?, own, Option.filter_some]
  by_cases fails : faults.faults.contains point = true
  · rw [if_pos fails, if_pos fails]
    rfl
  · rw [if_neg fails, if_neg fails]
    rfl

section Checks

variable {α : Type} (faults : Control) (now : Stamp) (context : String)

def verdict (r : Result α) : Result Unit := r.map fun _ => ()

theorem verdict_unit (r : Result Unit) : verdict r = r := by
  cases r <;> rfl

/-- Work on a book that ends as its checks decide, with a good value and a good book if all of them pass. -/
def Decides (p : Program (Result α)) (book : Book) (checks : List (Option LedgerError)) (good : α → Book → Prop) : Prop :=
  ∀ lines, ∃ x, p.tryOn faults now book lines = .ok x ∧ verdict x.answer = firstOf checks ∧
    ∀ a, x.answer = .ok a → good a x.book

variable (book : Book) (good : α → Book → Prop)

theorem decides_ok (a : α) (isGood : good a book) : Decides faults now (.done (.ok a)) book [] good :=
  fun _ => ⟨_, rfl, rfl, fun _ same => by cases same; exact isGood⟩

theorem decides_failed (e : LedgerError) (checks : List (Option LedgerError)) (first : firstOf checks = .error e) :
    Decides faults now (.done (.error e)) book checks good :=
  fun _ => ⟨_, rfl, first.symm, nofun⟩

theorem decides_passed (p : Program (Result α)) (checks : List (Option LedgerError))
    (decides : Decides faults now p book checks good) : Decides faults now p book (none :: checks) good := decides

theorem decides_clock (next : Stamp → Program (Result α)) (checks : List (Option LedgerError))
    (decides : Decides faults now (next now) book checks good) : Decides faults now (.clock next) book checks good := decides

-- A check that is made twice is made once.
theorem decides_again (p : Program (Result α)) (check : Option LedgerError) (checks : List (Option LedgerError))
    (decides : Decides faults now p book (check :: check :: checks) good) :
    Decides faults now p book (check :: checks) good := by
  cases check with
  | none => exact decides
  | some e => exact decides

section Calls

variable (c : Call) (point : FailPoint) (own : c.failPoint? = some point) (step : String)
  (checks : List (Option LedgerError)) (mid : Book)

include own

theorem call_decides (next : Except StoreError c.Reply → Program (Result α)) (reply : Except StoreError c.Reply)
    (failing : next (.error point.error) = .done (.error (failedAt context step point.error)))
    (answered : book.answer c = .ok (reply, mid)) (rest : Decides faults now (next reply) mid checks good) :
    Decides faults now (.call c next) book (faultAt faults context step point :: checks) good := by
  intro lines
  have failure := failure_at faults c point own
  by_cases fails : faults.faults.contains point = true
  · rw [if_pos fails] at failure
    rw [faultAt, if_pos fails]
    exact ⟨_, by simp only [Program.tryOn, failure, failing]; rfl, rfl, fun _ impossible => by cases impossible⟩
  · rw [if_neg fails] at failure
    rw [faultAt, if_neg fails]
    obtain ⟨x, tried, answer, ends⟩ := rest lines
    exact ⟨x.counted, by simp only [Program.tryOn, failure, answered, tried]; rfl, answer, ends⟩

variable (failed : StoreError → LedgerError) (injected : failed point.error = failedAt context step point.error)
  (next : c.Reply → Program (Result α))

include injected

theorem attempt_decides (value : c.Reply) (answered : book.answer c = .ok (.ok value, mid))
    (rest : Decides faults now (next value) mid checks good) :
    Decides faults now (attempt c failed next) book (faultAt faults context step point :: checks) good :=
  call_decides faults now context book good c point own step checks mid _ (.ok value)
    (congrArg (fun e => Program.done (Except.error e)) injected) answered rest

theorem refused_decides (e : StoreError) (answered : book.answer c = .ok (.error e, mid))
    (first : firstOf checks = .error (failed e)) :
    Decides faults now (attempt c failed next) book (faultAt faults context step point :: checks) good :=
  call_decides faults now context book good c point own step checks mid _ (.error e)
    (congrArg (fun e => Program.done (Except.error e)) injected) answered
    (decides_failed faults now mid good (failed e) checks first)

end Calls

theorem carried_decides (lines : List LogLine) (checks : List (Option LedgerError)) (x : Tried (Result α))
    (answer : verdict x.answer = firstOf checks) (ends : ∀ a, x.answer = .ok a → good a x.book) :
    verdict (carried faults context book lines x).answer = firstOf (faultAt faults context "begin transaction" .begin ::
      (checks ++ [faultAt faults context "commit transaction" .commit])) ∧
    ∀ a, (carried faults context book lines x).answer = .ok a → good a (carried faults context book lines x).book := by
  have begins := failure_at faults .begin .begin rfl
  have commits := failure_at faults .commit .commit rfl
  unfold carried
  by_cases noBegin : faults.faults.contains .begin = true
  · rw [begins, if_pos noBegin, faultAt, if_pos noBegin]
    exact ⟨rfl, fun a impossible => by cases impossible⟩
  · rw [begins, if_neg noBegin, faultAt, if_neg noBegin, first_passed, first_append, ← answer, settled]
    cases told : x.answer with
    | error cause =>
        cases faults.failure? .rollback <;> exact ⟨rfl, fun a impossible => by cases impossible⟩
    | ok value =>
        simp only [commits]
        by_cases noCommit : faults.faults.contains .commit = true
        · rw [if_pos noCommit, faultAt, if_pos noCommit]
          exact ⟨rfl, fun a impossible => by cases impossible⟩
        · rw [if_neg noCommit, faultAt, if_neg noCommit]
          exact ⟨rfl, fun a same => ends a (told.trans same)⟩

theorem unit_decides (p : Program (Result α)) (works : Works false p) (operation : String) (line : α → LogLine)
    (wrap : Result α → Outcome) (checks : List (Option LedgerError)) (decides : Decides faults now p book checks good)
    (lines : List LogLine) :
    ∃ r x, (((bounded none operation (inUnit context p)).bind (reported line)).map wrap).body.trial faults now none book
        lines = .ok x ∧ x.answer = wrap r ∧
      verdict r = firstOf (faultAt faults context "begin transaction" .begin ::
        (checks ++ [faultAt faults context "commit transaction" .commit])) ∧
      (∀ a, r = .ok a → good a x.book) ∧ ∀ e, r = .error e → x.book = book := by
  obtain ⟨x, worked, answer, ends⟩ := decides lines
  obtain ⟨log, tried⟩ := unit_trial faults now context book none operation p line wrap works lines x worked
  obtain ⟨told, isGood⟩ := carried_decides faults context book good lines checks x answer ends
  exact ⟨_, _, tried, rfl, told, isGood, carried_failed faults context book lines x⟩

end Checks

section Transfers

variable (faults : Control) (context : String) (book : Book) (t : Transfer)

def raisedTo : Decimal :=
  ((book.account? t.destination).bind fun a => a.balance.add? (Amount.round t.amount)).getD Decimal.zero

def workChecks : List (Option LedgerError) :=
  [faultAt faults context "check accounts" .getAccounts,
    if book.account? t.source = none ∨ book.account? t.destination = none then
      some (.partyNotFound t.source t.destination)
    else none,
    faultAt faults context "debit account" .debitAccount,
    if book.held t.source < (Amount.round t.amount).value then some (.insufficientFunds t.source) else none,
    faultAt faults context "credit account" .creditAccount,
    if 10 ^ 23 ≤ book.held t.destination + (Amount.round t.amount).value then
      some (failedAt context "credit account" (Book.overflow "balance" (raisedTo book t)))
    else none,
    faultAt faults context "append ledger entry" .appendEntry]

-- Those of a unit of work around that.
def unitChecks : List (Option LedgerError) :=
  faultAt faults context "begin transaction" .begin ::
    (workChecks faults context book t ++ [faultAt faults context "commit transaction" .commit])

def transferChecks : List (Option LedgerError) :=
  (if t.amount.value < 0 then some .negativeAmount else none) ::
  (if t.source = t.destination then some .sameAccount else none) ::
  unitChecks faults s!"create transfer {t.source} -> {t.destination}" book t

variable (now : Stamp)

def leaveEntries : Program (Result Unit) :=
  attempt (.append ⟨t.source, (Amount.round t.amount).neg, now⟩) (failedAt context "append ledger entry") fun _ =>
    attempt (.append ⟨t.destination, Amount.round t.amount, now⟩) (failedAt context "append ledger entry") fun _ =>
      .done (.ok ())

theorem entries_decide (money : (Amount.round t.amount).IsMoney) (reduced raised : Decimal) (good : Unit → Book → Prop)
    (isGood : good () ((book.post reduced (debitEntry now t)).post raised (creditEntry now t))) :
    Decides faults now (leaveEntries context t now)
      ((book.update t.source fun a => { a with balance := reduced, modified := now }).update t.destination
        fun a => { a with balance := raised, modified := now })
      [faultAt faults context "append ledger entry" .appendEntry] good := by
  apply decides_again
  have first := fun b : Book => b.append_done t.source (Amount.round t.amount).neg now (Decimal.money_neg _ money)
  have second := fun b : Book => b.append_done t.destination (Amount.round t.amount) now money
  refine attempt_decides faults now context _ good _ .appendEntry rfl _ _ _ _ rfl _ _ (by rw [Book.answer, first]; rfl) ?_
  refine attempt_decides faults now context _ good _ .appendEntry rfl _ _ _ _ rfl _ _ (by rw [Book.answer, second]; rfl) ?_
  exact decides_ok faults now _ good () isGood

variable (different : t.source ≠ t.destination) (nonneg : 0 ≤ (Amount.round t.amount).value)

include different nonneg

theorem credit_decides (money : (Amount.round t.amount).IsMoney) (reduced : Decimal)
    (less : reduced.value = book.held t.source - (Amount.round t.amount).value)
    (tidy : (book.update t.source fun a => { a with balance := reduced, modified := now }).Tidy) (a : Account)
    (found : book.account? t.destination = some a) :
    Decides faults now
      (attempt (.credit t.destination (Amount.round t.amount) now) (failedAt context "credit account") fun credited =>
        if credited = 0 then .done (.error (failedAt context "credit account" (notUpdated t.destination)))
        else leaveEntries context t now)
      (book.update t.source fun a => { a with balance := reduced, modified := now })
      [faultAt faults context "credit account" .creditAccount,
        if 10 ^ 23 ≤ book.held t.destination + (Amount.round t.amount).value then
          some (failedAt context "credit account" (Book.overflow "balance" (raisedTo book t)))
        else none,
        faultAt faults context "append ledger entry" .appendEntry] (fun _ => book.Moved t now) := by
  have held := book.held_account _ a found
  have still : (book.update t.source fun a => { a with balance := reduced, modified := now }).account? t.destination =
      some a := by
    rw [book.account_kept t.source t.destination _ ?_ different, found]
    exact fun _ => rfl
  by_cases full : 10 ^ 23 ≤ book.held t.destination + (Amount.round t.amount).value
  · rw [if_pos full]
    rw [held] at full
    obtain ⟨sum, added, refused⟩ := Book.credit_full _ tidy t.destination _ now a still money full
    have raised : raisedTo book t = sum := by rw [raisedTo, found, Option.bind_some, added, Option.getD_some]
    rw [raised]
    exact refused_decides faults now context _ _ _ .creditAccount rfl _ _ _ _ rfl _ _ (by rw [Book.answer, refused]; rfl) rfl
  · rw [held, not_le] at full
    obtain ⟨raised, value, credited, _⟩ := Book.credit_roomy _ tidy t.destination _ now a still money nonneg full
    rw [if_neg (by rw [held, not_le]; exact full)]
    refine attempt_decides faults now context _ _ _ .creditAccount rfl _ _ _ _ rfl _ 1 (by rw [Book.answer, credited]; rfl) ?_
    rw [if_neg Nat.one_ne_zero]
    apply decides_passed
    have moved := book.posts_moved t now reduced raised different less (by rw [held, value])
    exact entries_decide faults context book t now money reduced raised _ moved

theorem move_funds_decides (tidy : book.Tidy) :
    Decides faults now (moveFunds context t.source t.destination (Amount.round t.amount)) book
      (workChecks faults context book t) (fun _ => book.Moved t now) := by
  have two := book.two_found tidy t.source t.destination different
  refine attempt_decides faults now context book _ _ .getAccounts rfl _ _ book _ rfl _ _ rfl ?_
  by_cases missing : book.account? t.source = none ∨ book.account? t.destination = none
  · rw [if_pos missing, if_pos (two.mpr missing)]
    exact decides_failed faults now book _ _ _ rfl
  rw [if_neg missing, if_neg (mt two.mp missing)]
  apply decides_passed
  obtain ⟨source, foundSource⟩ := Option.ne_none_iff_exists'.mp (mt Or.inl missing)
  obtain ⟨destination, foundDestination⟩ := Option.ne_none_iff_exists'.mp (mt Or.inr missing)
  have held := book.held_account _ source foundSource
  by_cases short : book.held t.source < (Amount.round t.amount).value
  · rw [if_pos short]
    rw [held] at short
    have spared := book.debit_short t.source (Amount.round t.amount) now source foundSource short
    refine attempt_decides faults now context book _ _ .debitAccount rfl _ _ _ _ rfl _ 0 (by rw [Book.answer, spared]; rfl) ?_
    exact fun lines => decides_failed faults now book _ _ _ rfl (_ :: lines)
  · rw [if_neg short]
    rw [held, not_lt] at short
    have money := book.covered_money tidy t.source source foundSource t.amount nonneg short
    obtain ⟨reduced, value, debited, still⟩ :=
      book.debit_covered tidy t.source _ now source foundSource money nonneg short
    refine attempt_decides faults now context book _ _ .debitAccount rfl _ _ _ _ rfl _ 1 (by rw [Book.answer, debited]; rfl) ?_
    rw [if_neg Nat.one_ne_zero]
    apply decides_passed
    exact credit_decides faults context book t now different nonneg money reduced (by rw [held, value]) still destination
      foundDestination

end Transfers

section Outcome

variable (checks : List (Option LedgerError)) (faults : Control) (now : Stamp) (book : Book) (t : Transfer)

/-- How a transfer ends: as the checks decide, with all of it done or nothing. -/
structure Decided (outcome : Outcome) (later : Book) : Prop where
  told : outcome = .transfer (firstOf checks)
  kept : ∀ e, firstOf checks = .error e → later = book
  moved : firstOf checks = .ok () → book.Moved t now later

theorem decided_failed (e : LedgerError) : Decided (some e :: checks) now book t (.transfer (.error e)) book :=
  ⟨rfl, fun _ _ => rfl, nofun⟩

theorem decided_passed (outcome : Outcome) (later : Book) (decided : Decided checks now book t outcome later) :
    Decided (none :: checks) now book t outcome later := ⟨decided.told, decided.kept, decided.moved⟩

theorem unit_decided (context : String) (line : Unit → LogLine) (tidy : book.Tidy) (different : t.source ≠ t.destination)
    (nonneg : 0 ≤ (Amount.round t.amount).value) (lines : List LogLine) :
    ∃ x, (((bounded none "create transfer" (inUnit context
        (moveFunds context t.source t.destination (Amount.round t.amount)))).bind (reported line)).map
          Outcome.transfer).body.trial faults now none book lines = .ok x ∧
      Decided (unitChecks faults context book t) now book t x.answer x.book := by
  obtain ⟨r, x, tried, answer, told, moved, kept⟩ := unit_decides faults now context book _ _ (move_funds_works _ _ _ _)
    "create transfer" line Outcome.transfer _ (move_funds_decides faults context book t now different nonneg tidy) lines
  rw [verdict_unit] at told
  rw [told] at answer moved kept
  exact ⟨x, tried, answer, kept, moved ()⟩

theorem transfer_trial (tidy : book.Tidy) (lines : List LogLine) :
    ∃ x, ((Operation.createTransfer t).task none).body.trial faults now none book lines = .ok x ∧
      Decided (transferChecks faults book t) now book t x.answer x.book := by
  have numLt : t.amount.numLt Decimal.zero = true ↔ t.amount.value < 0 := by
    rw [Decimal.num_lt, Decimal.value_zero]
  rw [transferChecks]
  by_cases negative : t.amount.value < 0
  · have refused : (Operation.createTransfer t).rejection? = some .negativeAmount := if_pos (numLt.mpr negative)
    rw [if_pos negative, rejected_task none _ _ refused]
    exact ⟨_, rfl, decided_failed _ now book t _⟩
  have passes : (Operation.createTransfer t).rejection? = if t.source = t.destination then some .sameAccount else none :=
    if_neg (mt numLt.mp negative)
  rw [if_neg negative]
  by_cases same : t.source = t.destination
  · rw [if_pos same] at passes ⊢
    rw [rejected_task none _ _ passes]
    exact ⟨_, rfl, decided_passed _ now book t _ _ (decided_failed _ now book t _)⟩
  · rw [if_neg same] at passes ⊢
    have nonneg := accepted_nonneg _ _ rfl passes
    rw [Operation.task, accepted_transfer none t passes]
    obtain ⟨x, tried, decided⟩ := unit_decided faults now book t s!"create transfer {t.source} -> {t.destination}"
      (fun _ => transferCommitted t.source t.destination (Amount.round t.amount)) tidy same nonneg lines
    exact ⟨x, tried, decided_passed _ now book t _ _ (decided_passed _ now book t _ _ decided)⟩

end Outcome

end Ledger
end DoubleEntry
