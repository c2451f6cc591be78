import DoubleEntry.Proofs.Book.Order
import DoubleEntry.Proofs.Ledger.Discipline
import DoubleEntry.Proofs.Ledger.Verdict
import DoubleEntry.Proofs.Store.CopyCalls

/-!
The arithmetic of operations. On books as histories leave them, all sums and differences that a unit of work takes are
exact, and none of its calls is one that the store would refuse for more than the limit of a balance.
-/

set_option autoImplicit false

namespace DoubleEntry

open Time (Stamp)

namespace Ledger

-- An entry with five digits that passes the check of its amount.
structure Noted (copy : Book) (e : NewEntry) : Prop where
  money : e.amount.IsMoney
  done : ∃ later, copy.append e = .ok (copy.next e, later)

/-- A call of an operation on a copy of the books: the numbers that are found there and what is made of them. -/
inductive Exact (copy : Book) : Operation → Call → Prop
  | looked (t : Transfer) : Exact copy (.createTransfer t) (.getAccounts [t.source, t.destination])
  | debited (t : Transfer) (now : Stamp) (a : Account) (found : copy.account? t.source = some a)
      (difference : (Amount.round t.amount).value ≤ a.balance.value →
        ∃ d : Decimal, a.balance.sub? (Amount.round t.amount) = some d ∧ d.scale = 5 ∧
          d.value = a.balance.value - (Amount.round t.amount).value) :
      Exact copy (.createTransfer t) (.debit t.source (Amount.round t.amount) now)
  | credited (t : Transfer) (now : Stamp) (a : Account) (found : copy.account? t.destination = some a) (d : Decimal)
      (sum : a.balance.add? (Amount.round t.amount) = some d) (scale : d.scale = 5)
      (value : d.value = a.balance.value + (Amount.round t.amount).value)
      (reply : copy.credit t.destination (Amount.round t.amount) now = .error (Book.overflow "balance" d) ∨
        ∃ later, copy.credit t.destination (Amount.round t.amount) now = .ok (1, later)) :
      Exact copy (.createTransfer t) (.credit t.destination (Amount.round t.amount) now)
  | taken (t : Transfer) (now : Stamp) (noted : Noted copy ⟨t.source, (Amount.round t.amount).neg, now⟩)
      (value : (Amount.round t.amount).neg.value = -(Amount.round t.amount).value) :
      Exact copy (.createTransfer t) (.append ⟨t.source, (Amount.round t.amount).neg, now⟩)
  | given (t : Transfer) (now : Stamp) (noted : Noted copy ⟨t.destination, Amount.round t.amount, now⟩) :
      Exact copy (.createTransfer t) (.append ⟨t.destination, Amount.round t.amount, now⟩)
  | created (input : NewAccount) (now : Stamp) :
      Exact copy (.createAccount input) (.createAccount ⟨input.id, Amount.round input.initialBalance, now, now⟩)
  | opened (input : NewAccount) (now : Stamp) (noted : Noted copy ⟨input.id, Amount.round input.initialBalance, now⟩) :
      Exact copy (.createAccount input) (.append ⟨input.id, Amount.round input.initialBalance, now⟩)

-- The entries of a unit of work are numbered from the last one on the books on which it began.
def Numbered (base copy : Book) (c : Call) : Prop :=
  ∀ e, c = .append e → copy.lastEntry = copy.entries.length ∧ copy.lastEntry ≤ base.entries.length + 1

structure WellKept (b : Book) : Prop where
  balanced : b.Balanced
  order : b.InOrder

def CallOf (asked : Option Operation) (base copy : Book) (c : Call) : Prop :=
  (∃ o, asked = some o ∧ Exact copy o c) ∧ Numbered base copy c

theorem noted_money (copy : Book) (id : AccountId) (amount : Decimal) (now : Stamp) (money : amount.IsMoney) :
    Noted copy ⟨id, amount, now⟩ := ⟨money, _, copy.append_done id amount now money⟩

section Units

variable {α : Type} (asked : Option Operation) (base : Book) (context : String)

-- The calls of what is asked for, in units that began on books as histories leave them.
abbrev exactness (asked : Option Operation) : Discipline Begun := safety WellKept (CallOf asked)

theorem attempt_exact (copy : Book) (c : Call) (failed : StoreError → LedgerError) (next : c.Reply → Program (Result α))
    (isWork : c.isWork = true) (own : CallOf asked base copy c) (answered : ∃ result, copy.answer c = .ok result)
    (goes : ∀ value later, copy.answer c = .ok (.ok value, later) →
      ((next value).bind (settle context)).FollowsIn (exactness asked) ⟨base, later⟩) :
    ((attempt c failed next).bind (settle context)).FollowsIn (exactness asked) ⟨base, copy⟩ := by
  refine attempt_follows _ context _ c failed next isWork ⟨own, answered⟩ ?_
  rintro value later (⟨⟨e, impossible⟩, _⟩ | ⟨mid, answer, rfl⟩)
  · cases impossible
  · exact goes value mid answer

theorem unit_exact (p : Program (Result α))
    (follows : ∀ base, WellKept base → (p.bind (settle context)).FollowsIn (exactness asked) ⟨base, base⟩) :
    (inUnit context p).Follows (exactness asked) := by
  refine unit_follows _ context p ?_
  rintro ⟨base, copy⟩ ⟨kept, same⟩
  cases (show copy = base from same)
  exact follows _ kept

end Units

theorem not_numbered (base copy : Book) (c : Call) (other : ∀ e, c ≠ .append e) : Numbered base copy c := by
  intro e same
  exact absurd same (other e)

section Accounts

variable (base : Book) (input : NewAccount) (context : String) (order : base.InOrder)

include order

theorem insert_account_safe :
    ((insertAccount context input.id (Amount.round input.initialBalance)).bind (settle context)).FollowsIn
      (exactness (some (.createAccount input))) ⟨base, base⟩ := by
  refine .clock _ _ trivial fun now => ?_
  refine attempt_exact _ base context base _ _ _ rfl ⟨⟨_, rfl, .created input now⟩, not_numbered base base _ nofun⟩
    ⟨_, rfl⟩ ?_
  intro account later answer
  have made := written_ok base later _ account (Except.ok.inj answer)
  obtain ⟨_, below, _, rfl, rfl⟩ := Book.create_ok base _ account later made
  have money := Decimal.round_money input.initialBalance below
  refine attempt_exact _ base context _ _ _ _ rfl
    ⟨⟨_, rfl, .opened input now (noted_money _ _ _ now money)⟩, fun _ _ => ⟨order.last, ?_⟩⟩ ⟨_, rfl⟩ ?_
  · exact Nat.le_succ_of_le (Nat.le_of_eq order.last)
  · exact fun _ last _ => settle_follows _ context _ (.ok _)

end Accounts

section Transfers

variable (base : Book) (t : Transfer) (context : String) (kept : WellKept base) (different : t.source ≠ t.destination)
  (nonneg : 0 ≤ (Amount.round t.amount).value)

theorem entries_safe (copy : Book) (money : (Amount.round t.amount).IsMoney) (now : Stamp)
    (numbered : copy.lastEntry = copy.entries.length) (same : copy.lastEntry = base.entries.length) :
    ((leaveEntries context t now).bind (settle context)).FollowsIn
      (exactness (some (.createTransfer t))) ⟨base, copy⟩ := by
  have taken : CallOf (some (.createTransfer t)) base copy (.append ⟨t.source, (Amount.round t.amount).neg, now⟩) :=
    ⟨⟨_, rfl, .taken t now (noted_money copy _ _ now (Decimal.money_neg _ money)) (Decimal.value_neg _)⟩,
      fun _ _ => ⟨numbered, by omega⟩⟩
  refine attempt_exact _ base context copy _ _ _ rfl taken ⟨_, rfl⟩ ?_
  intro entry later answer
  obtain ⟨_, rfl, rfl⟩ := Book.append_ok copy _ entry later (written_ok copy later _ entry (Except.ok.inj answer))
  refine attempt_exact _ base context _ _ _ _ rfl
    ⟨⟨_, rfl, .given t now (noted_money _ _ _ now money)⟩, fun _ _ => ⟨?_, ?_⟩⟩ ⟨_, rfl⟩ ?_
  · rw [List.length_append, List.length_singleton, numbered]
  · exact Nat.succ_le_succ (Nat.le_of_eq same)
  · exact fun _ last _ => settle_follows _ context _ (.ok ())

-- The second half of a transfer, on books where its amount has been taken from the source.
theorem credit_safe (copy : Book) (tidy : copy.Tidy) (nonneg : 0 ≤ (Amount.round t.amount).value)
    (money : (Amount.round t.amount).IsMoney) (now : Stamp) (a : Account) (found : copy.account? t.destination = some a)
    (numbered : copy.lastEntry = copy.entries.length) (same : copy.lastEntry = base.entries.length) :
    ((attempt (.credit t.destination (Amount.round t.amount) now) (failedAt context "credit account") fun credited =>
      if credited = 0 then .done (.error (failedAt context "credit account" (notUpdated t.destination)))
      else leaveEntries context t now).bind (settle context)).FollowsIn
      (exactness (some (.createTransfer t))) ⟨base, copy⟩ := by
  obtain ⟨moneyThere, _⟩ := tidy.money a (Book.account_mem _ _ a found)
  obtain ⟨sum, added, scale, value⟩ := Decimal.add_money a.balance _ moneyThere money
  have fits := fun reply =>
    (⟨⟨_, rfl, .credited t now a found sum added scale value reply⟩, not_numbered base copy _ nofun⟩ :
      CallOf (some (.createTransfer t)) base copy _)
  by_cases full : 10 ^ 23 ≤ a.balance.value + (Amount.round t.amount).value
  · obtain ⟨d, again, refused⟩ := Book.credit_full copy tidy t.destination _ now a found money full
    cases added.symm.trans again
    refine attempt_exact _ base context copy _ _ _ rfl (fits (.inl refused)) ⟨_, rfl⟩ ?_
    intro credited raised crediting
    rw [Book.answer, refused] at crediting
    cases crediting
  · obtain ⟨more, _, credit, _⟩ := Book.credit_roomy copy tidy t.destination _ now a found money nonneg (not_le.mp full)
    refine attempt_exact _ base context copy _ _ _ rfl (fits (.inr ⟨_, credit⟩)) ⟨_, rfl⟩ ?_
    intro credited raised crediting
    rw [Book.answer, credit] at crediting
    cases crediting
    exact entries_safe base t context _ money now numbered same

include kept different nonneg

theorem move_funds_safe :
    ((moveFunds context t.source t.destination (Amount.round t.amount)).bind (settle context)).FollowsIn
      (exactness (some (.createTransfer t))) ⟨base, base⟩ := by
  have tidy := Book.balanced_tidy base kept.balanced
  have two := base.two_found tidy t.source t.destination different
  refine attempt_exact _ base context base _ _ _ rfl ⟨⟨_, rfl, .looked t⟩, not_numbered base base _ nofun⟩ ⟨_, rfl⟩ ?_
  rintro _ _ ⟨⟩
  by_cases missing : base.account? t.source = none ∨ base.account? t.destination = none
  · rw [if_pos (two.mpr missing)]
    exact settle_follows _ context _ (.error _)
  rw [if_neg (mt two.mp missing)]
  obtain ⟨source, foundSource⟩ := Option.ne_none_iff_exists'.mp (mt Or.inl missing)
  obtain ⟨destination, foundDestination⟩ := Option.ne_none_iff_exists'.mp (mt Or.inr missing)
  have covers := base.covered_money tidy t.source source foundSource t.amount nonneg
  have difference := fun covered =>
    Decimal.sub_money _ _ (tidy.money source (Book.account_mem _ _ source foundSource)).1 (covers covered)
  refine .clock _ _ trivial fun now => ?_
  refine attempt_exact _ base context base _ _ _ rfl
    ⟨⟨_, rfl, .debited t now source foundSource difference⟩, not_numbered base base _ nofun⟩
    (debit_answers now base t.source _ nonneg) ?_
  intro debited reduced debiting
  by_cases short : source.balance.value < (Amount.round t.amount).value
  · rw [Book.answer, base.debit_short t.source _ now source foundSource short] at debiting
    cases debiting
    exact .log _ _ _ (settle_follows _ context _ (.error _))
  · have covered := not_lt.mp short
    obtain ⟨less, _, debit, still⟩ :=
      base.debit_covered tidy t.source _ now source foundSource (covers covered) nonneg covered
    rw [Book.answer, debit] at debiting
    cases debiting
    have there := base.account_kept t.source t.destination (fun a => { a with balance := less, modified := now })
      (fun _ => rfl) different
    rw [foundDestination] at there
    exact credit_safe base t context _ still nonneg (covers covered) now destination there kept.order.last kept.order.last

end Transfers

theorem operation_safe (limit : Option Nat) (o : Operation) : (o.task limit).body.Follows (exactness (some o)) := by
  refine operation_inherits (fun _ p => p.Follows (exactness (some o))) (fun _ p => Program.reads_follow _ p)
    (fun _ _ g p q => Program.mirrors_follows _ g p q) limit o ?_ ?_
  · rintro input rfl _
    exact unit_exact _ _ _ fun base kept => insert_account_safe base input _ kept.order
  · rintro t rfl accepted
    refine unit_exact _ _ _ fun base kept => ?_
    exact move_funds_safe base t _ kept (accepted_apart t accepted) (accepted_nonneg _ _ rfl accepted)

end Ledger
end DoubleEntry
