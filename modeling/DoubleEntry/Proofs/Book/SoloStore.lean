import DoubleEntry.Proofs.Ledger.Contract
import DoubleEntry.Proofs.Program.Solo

/-!
Books as a store for one operation at a time. What a program does by itself is what it does on this store, and the
store keeps to the contract: sums of money are exact there, and credits that stay below the limit are not refused.
-/

set_option autoImplicit false

namespace DoubleEntry.Book

open Time (Stamp)

-- The unit of work that is open and what is committed; nothing any more once a sum was refused.
abbrev SoloState := Option (Option Book × Book)

def soloStore (now : Stamp) : AnyStore SoloState where
  answer s c :=
    match s with
    | none => (.error (.backend ""), none)
    | some (unit, committed) =>
      match serve unit committed c with
      | .ok (reply, unit, committed) => (reply, some (unit, committed))
      | .error e => (.error (.backend e.message), none)
  clock s := (now, s)

theorem solo_store_served (now : Stamp) (c : Call) (unit after : Option Book) (committed later : Book)
    (reply : Except StoreError c.Reply) (served : serve unit committed c = .ok (reply, after, later)) :
    (soloStore now).answer (some (unit, committed)) c = (reply, some (after, later)) := by
  simp only [soloStore, served]

theorem refused_plays {α : Type} (now : Stamp) (p : Program α) : (p.play (soloStore now) none).state = none := by
  induction p with
  | done a => rfl
  | log line rest ih => exact ih
  | clock next ih => exact ih now
  | call c next ih => exact ih (.error (.backend ""))

theorem solo_store_plays {α : Type} (now : Stamp) (p : Program α) (unit after : Option Book) (committed later : Book)
    (ended : (p.play (soloStore now) (some (unit, committed))).state = some (after, later)) :
    p.solo now unit committed = .ok ((p.play (soloStore now) (some (unit, committed))).answer, later) := by
  induction p generalizing unit committed with
  | done a =>
      cases ended
      rfl
  | log line rest ih => exact ih unit committed ended
  | clock next ih => exact ih now unit committed ended
  | call c next ih =>
      cases served : serve unit committed c with
      | error e =>
          have refused : (soloStore now).answer (some (unit, committed)) c = (.error (.backend e.message), none) := by
            simp only [soloStore, served]
          simp only [Program.play, refused, refused_plays] at ended
          cases ended
      | ok result =>
          obtain ⟨reply, mid, book⟩ := result
          have answered := solo_store_served now c unit mid committed book reply served
          rw [Program.solo_call now c next unit mid committed book reply served]
          simp only [Program.play, answered] at ended ⊢
          exact ih reply mid book ended

-- What each book in a unit of work satisfies, also between the write of a balance and that of its entry.
structure Tidy (b : Book) : Prop where
  distinct : (b.accounts.map Account.id).Nodup
  money : ∀ a ∈ b.accounts, a.balance.IsMoney ∧ 0 ≤ a.balance.value

def position (b : Book) : Position :=
  ⟨fun id => (b.account? id).map fun a => a.balance.value, fun id => (b.entriesOf id).map fun e => e.amount.value⟩

theorem position_account (b : Book) (id : AccountId) (held : ℚ) (known : b.position.balance id = some held) :
    ∃ a ∈ b.accounts, b.account? id = some a ∧ a.balance.value = held := by
  obtain ⟨a, found, same⟩ := Option.map_eq_some_iff.mp known
  exact ⟨a, account_mem b id a found, found, same⟩

theorem balanced_tidy (b : Book) (balanced : b.Balanced) : b.Tidy :=
  ⟨balanced.distinct, balanced_money b balanced⟩

section Writes

variable (b : Book) (tidy : b.Tidy)

include tidy in
theorem covered_money (id : AccountId) (a : Account) (found : b.account? id = some a) (d : Decimal)
    (nonneg : 0 ≤ (Amount.round d).value) (covered : (Amount.round d).value ≤ a.balance.value) :
    (Amount.round d).IsMoney := by
  have most := (tidy.money a (account_mem b id a found)).1.below
  apply Decimal.round_money
  rw [below_limit, abs_of_nonneg nonneg]
  exact lt_of_le_of_lt covered (lt_of_le_of_lt (le_abs_self _) most)

include tidy in
theorem update_tidy (id : AccountId) (balance : Decimal) (now : Stamp) (money : balance.IsMoney)
    (nonneg : 0 ≤ balance.value) : (b.update id fun a => { a with balance, modified := now }).Tidy := by
  refine ⟨?_, ?_⟩
  · rw [update_ids b id (fun a => { a with balance, modified := now }) fun _ => rfl]
    exact tidy.distinct
  · intro a member
    obtain ⟨old, oldMember, changed⟩ := List.mem_map.mp member
    by_cases own : old.id = id
    · rw [if_pos (by simpa using own)] at changed
      rw [← changed]
      exact ⟨money, nonneg⟩
    · rw [if_neg (by simpa using own)] at changed
      rw [← changed]
      exact tidy.money old oldMember

theorem update_position (id : AccountId) (a : Account) (balance : Decimal) (now : Stamp)
    (found : b.account? id = some a) :
    (b.update id fun a => { a with balance, modified := now }).position = b.position.put id balance.value := by
  refine Position.ext (funext fun other => ?_) rfl
  have looked := account_update b id other (fun a => { a with balance, modified := now }) fun _ => rfl
  simp only [position, looked, Position.put_balance, Option.map_map]
  by_cases same : other = id
  · subst same
    have own := account_id b other a found
    simp [found, own]
  · rw [if_neg same]
    cases known : b.account? other with
    | none => rfl
    | some x =>
        have own := account_id b other x known
        simp [own, same]

theorem insert_position (a : Account) (free : b.account? a.id = none) :
    { b with accounts := insertAccount a b.accounts }.position = b.position.put a.id a.balance.value := by
  refine Position.ext (funext fun other => ?_) rfl
  have looked := find_insert a b.accounts other (free_account b a.id free)
  simp only [position, account?, looked, Position.put_balance]
  by_cases same : a.id = other
  · rw [if_pos same, if_pos same.symm]
    rfl
  · rw [if_neg same, if_neg (Ne.symm same)]

include tidy in
theorem insert_tidy (a : Account) (free : b.account? a.id = none) (money : a.balance.IsMoney)
    (nonneg : 0 ≤ a.balance.value) : Tidy { b with accounts := insertAccount a b.accounts } := by
  refine ⟨?_, ?_⟩
  · apply ((insert_perm a b.accounts).map Account.id).nodup_iff.mpr
    rw [List.map_cons, List.nodup_cons]
    refine ⟨?_, tidy.distinct⟩
    intro taken
    obtain ⟨other, member, same⟩ := List.mem_map.mp taken
    exact free_account b a.id free other member same
  · intro other member
    rcases (mem_insert a other b.accounts).mp member with rfl | old
    · exact ⟨money, nonneg⟩
    · exact tidy.money other old

theorem append_position (e : NewEntry) :
    { b with entries := b.entries ++ [b.next e], lastEntry := b.lastEntry + 1 }.position =
      b.position.post e.account e.amount.value := by
  refine Position.ext rfl (funext fun other => ?_)
  simp only [position, entriesOf, entries_of_append, Position.post_entries, List.map_append]
  by_cases own : e.account = other
  · rw [if_pos own.symm, if_pos (by exact own)]
    rfl
  · rw [if_neg (Ne.symm own), if_neg (by exact own), List.map_nil, List.append_nil]

theorem account_missing (id : AccountId) : b.position.balance id = none ↔ id ∉ b.accounts.map Account.id := by
  rw [position, Option.map_eq_none_iff, account?, List.find?_eq_none, List.mem_map, not_exists]
  simp

end Writes

-- A solo store whose committed books hold a position, and one with a unit of work on it.
def Rests (p : Position) (s : SoloState) : Prop :=
  ∃ b : Book, s = some (none, b) ∧ b.Tidy ∧ b.position = p

def Works (p : Position) (q : Option Position) (s : SoloState) : Prop :=
  ∃ unit b : Book, s = some (some unit, b) ∧ b.Tidy ∧ b.position = p ∧
    ∀ here, q = some here → unit.Tidy ∧ unit.position = here

theorem solo_store_work (now : Stamp) (c : Call) (isWork : c.isWork = true) (unit later b : Book)
    (reply : Except StoreError c.Reply) (answered : unit.answer c = .ok (reply, later)) :
    (soloStore now).answer (some (some unit, b)) c = (reply, some (some later, b)) := by
  apply solo_store_served
  rw [serve_work _ _ c isWork, Option.getD_some, answered]
  rfl

section Work

variable (now : Stamp) (p q : Position) (s : SoloState) (works : Works p (some q) s)

include works

theorem work_done (c : Call) (isWork : c.isWork = true) (good : Except StoreError c.Reply → Prop) (after : Position)
    (answers : ∀ unit : Book, unit.Tidy → unit.position = q → ∃ reply later, unit.answer c = .ok (reply, later) ∧
      good reply ∧ later.Tidy ∧ later.position = after) :
    good ((soloStore now).answer s c).1 ∧ Works p (some after) ((soloStore now).answer s c).2 := by
  obtain ⟨unit, b, rfl, tidy, same, holds⟩ := works
  obtain ⟨tidyUnit, here⟩ := holds q rfl
  obtain ⟨reply, later, answered, isGood, tidyLater, there⟩ := answers unit tidyUnit here
  rw [solo_store_work now c isWork unit later b reply answered]
  refine ⟨isGood, later, b, rfl, tidy, same, ?_⟩
  intro last reached
  cases reached
  exact ⟨tidyLater, there⟩

theorem work_failed (c : Call) (isWork : c.isWork = true) (good : Except StoreError c.Reply → Prop)
    (answers : ∀ unit : Book, unit.Tidy → unit.position = q → ∃ reply later, unit.answer c = .ok (reply, later) ∧
      good reply) :
    good ((soloStore now).answer s c).1 ∧ Works p none ((soloStore now).answer s c).2 := by
  obtain ⟨unit, b, rfl, tidy, same, holds⟩ := works
  obtain ⟨tidyUnit, here⟩ := holds q rfl
  obtain ⟨reply, later, answered, isGood⟩ := answers unit tidyUnit here
  rw [solo_store_work now c isWork unit later b reply answered]
  exact ⟨isGood, later, b, rfl, tidy, same, fun _ impossible => by cases impossible⟩

end Work

section Replies

variable (b : Book) (tidy : b.Tidy) (id : AccountId) (amount : Decimal) (time : Stamp)

theorem create_low (low : id < 1) : ∃ detail, b.create ⟨id, amount, time, time⟩ = .error (.backend detail) :=
  ⟨_, if_pos low⟩

theorem create_taken (high : ¬ id < 1) (money : amount.IsMoney) (a : Account) (taken : b.account? id = some a) :
    ∃ detail, b.create ⟨id, amount, time, time⟩ = .error (.duplicateKey detail) := by
  have present : b.has id = true := by rw [has_eq_account, taken]; rfl
  have below := (below_limit amount).mpr money.below
  exact ⟨_, by simp only [create, if_neg high, below, Bool.not_true, Bool.false_eq_true, if_false, if_pos present]; rfl⟩

theorem create_free (high : ¬ id < 1) (money : amount.IsMoney) (free : b.account? id = none) :
    b.create ⟨id, amount, time, time⟩ =
      .ok (⟨id, amount, time, time⟩, { b with accounts := insertAccount ⟨id, amount, time, time⟩ b.accounts }) := by
  have absent : b.has id = false := by rw [has_eq_account, free]; rfl
  simp only [create, if_neg high, (below_limit amount).mpr money.below, absent, Bool.not_true, Bool.false_eq_true,
    if_false]

theorem debit_short (a : Account) (found : b.account? id = some a) (short : a.balance.value < amount.value) :
    b.debit id amount time = .ok (0, b) := by
  have less : ¬ amount.numLe a.balance = true := by
    rw [Decimal.num_le]
    exact not_le.mpr short
  simp only [debit, found, if_neg less]

include tidy in
theorem debit_covered (a : Account) (found : b.account? id = some a) (money : amount.IsMoney)
    (nonneg : 0 ≤ amount.value)
    (covered : amount.value ≤ a.balance.value) :
    ∃ balance : Decimal, balance.value = a.balance.value - amount.value ∧
      b.debit id amount time = .ok (1, b.update id fun a => { a with balance, modified := time }) ∧
      (b.update id fun a => { a with balance, modified := time }).Tidy := by
  obtain ⟨moneyA, nonnegA⟩ := tidy.money a (account_mem b id a found)
  obtain ⟨balance, difference, scale, value⟩ := Decimal.sub_money a.balance amount moneyA money
  have enough : amount.numLe a.balance = true := (Decimal.num_le _ _).mpr covered
  have least : 0 ≤ balance.value := by rw [value]; exact sub_nonneg.mpr covered
  have below : balance.value < 10 ^ 23 := by
    rw [value]
    exact lt_of_le_of_lt (sub_le_self _ nonneg) (lt_of_le_of_lt (le_abs_self _) moneyA.below)
  refine ⟨balance, value, ?_,
    update_tidy b tidy id balance time ⟨scale, by rw [abs_of_nonneg least]; exact below⟩ least⟩
  simp only [debit, found, if_pos enough, difference]

include tidy in
theorem credit_roomy (a : Account) (found : b.account? id = some a) (money : amount.IsMoney) (nonneg : 0 ≤ amount.value)
    (room : a.balance.value + amount.value < 10 ^ 23) :
    ∃ balance : Decimal, balance.value = a.balance.value + amount.value ∧
      b.credit id amount time = .ok (1, b.update id fun a => { a with balance, modified := time }) ∧
      (b.update id fun a => { a with balance, modified := time }).Tidy := by
  obtain ⟨moneyA, nonnegA⟩ := tidy.money a (account_mem b id a found)
  obtain ⟨balance, sum, scale, value⟩ := Decimal.add_money a.balance amount moneyA money
  have least : 0 ≤ balance.value := by rw [value]; exact add_nonneg nonnegA nonneg
  have below : |balance.value| < 10 ^ 23 := by rw [abs_of_nonneg least, value]; exact room
  refine ⟨balance, value, ?_, update_tidy b tidy id balance time ⟨scale, below⟩ least⟩
  simp only [credit, found, sum, (below_limit balance).mpr below, if_true]

include tidy in
theorem credit_full (a : Account) (found : b.account? id = some a) (money : amount.IsMoney)
    (full : 10 ^ 23 ≤ a.balance.value + amount.value) :
    ∃ sum, a.balance.add? amount = some sum ∧ b.credit id amount time = .error (overflow "balance" sum) := by
  obtain ⟨moneyA, _⟩ := tidy.money a (account_mem b id a found)
  obtain ⟨sum, added, _, value⟩ := Decimal.add_money a.balance amount moneyA money
  have tooMuch : Amount.isBelowLimit sum = false := by
    apply eq_false_of_ne_true
    rw [below_limit, value, not_lt]
    exact le_trans full (le_abs_self _)
  refine ⟨sum, added, ?_⟩
  simp only [credit, found, added, tooMuch, Bool.false_eq_true, if_false]

theorem append_done (money : amount.IsMoney) :
    b.append ⟨id, amount, time⟩ = .ok (b.next ⟨id, amount, time⟩,
      { b with entries := b.entries ++ [b.next ⟨id, amount, time⟩], lastEntry := b.lastEntry + 1 }) :=
  if_pos ((below_limit amount).mpr money.below)

end Replies

def soloContract (now : Stamp) : Contract (soloStore now) where
  rests := Rests
  works := Works
  takes _ := True
  shows _ := True
  begins := by
    rintro p s ⟨b, rfl, tidy, rfl⟩
    refine ⟨rfl, b, b, rfl, tidy, rfl, ?_⟩
    intro here same
    cases same
    exact ⟨tidy, rfl⟩
  commits := by
    rintro p q s ⟨unit, b, rfl, _, _, holds⟩
    obtain ⟨tidy, same⟩ := holds q rfl
    exact ⟨rfl, unit, rfl, tidy, same⟩
  rollsBack := by
    rintro p q s ⟨unit, b, rfl, tidy, same, _⟩
    exact ⟨b, rfl, tidy, same⟩
  clock p q s works := ⟨trivial, works⟩
  finds := by
    rintro p s id _ ⟨b, rfl, tidy, rfl⟩
    refine ⟨b.account? id, rfl, ?_, b, rfl, tidy, rfl⟩
    simp only [position]
    cases found : b.account? id with
    | none => rfl
    | some a => simp [account_id b id a found]
  lists := by
    rintro p s id _ ⟨b, rfl, tidy, rfl⟩
    exact ⟨b.entriesOf id, rfl, rfl, b, rfl, tidy, rfl⟩
  counts := by
    rintro p q s x y _ _ different ⟨unit, b, rfl, tidy, same, holds⟩
    obtain ⟨tidyUnit, rfl⟩ := holds q rfl
    refine ⟨unit.accountsAmong [x, y], rfl, ?_, unit, b, rfl, tidy, same, holds⟩
    rw [account_missing, account_missing]
    exact both_found Account.id unit.accounts x y tidyUnit.distinct different
  refuses := by
    intro p q s id balance time payable works low
    refine work_failed now p q s works _ rfl (fun reply => ∃ detail, reply = .error (.backend detail)) ?_
    intro unit _ _
    obtain ⟨detail, refused⟩ := create_low unit id balance time low
    exact ⟨_, unit, by rw [answer, refused]; rfl, detail, rfl⟩
  repeats := by
    intro p q s id balance time held payable works high known
    refine work_failed now p q s works _ rfl (fun reply => ∃ detail, reply = .error (.duplicateKey detail)) ?_
    rintro unit _ rfl
    obtain ⟨a, _, found, _⟩ := position_account unit id held known
    obtain ⟨detail, taken⟩ := create_taken unit id balance time high payable.money a found
    exact ⟨_, unit, by rw [answer, taken]; rfl, detail, rfl⟩
  creates := by
    intro p q s id balance time payable works high unknown
    refine work_done now p q s works (.createAccount ⟨id, balance, time, time⟩) rfl
      (fun reply => ∃ made : Account, reply = .ok made ∧ made.id = id ∧ made.balance.value = balance.value) _ ?_
    rintro unit tidy rfl
    have free : unit.account? id = none := Option.map_eq_none_iff.mp unknown
    refine ⟨_, _, by rw [answer, create_free unit id balance time high payable.money free], ?_, ?_, ?_⟩
    · exact ⟨_, rfl, rfl, rfl⟩
    · exact insert_tidy unit tidy ⟨id, balance, time, time⟩ free payable.money payable.nonneg
    · exact insert_position unit ⟨id, balance, time, time⟩ free
  spares := by
    intro p q s id amount time held payable works known short
    refine work_done now p q s works _ rfl (· = .ok 0) _ ?_
    rintro unit tidy rfl
    obtain ⟨a, _, found, rfl⟩ := position_account unit id held known
    exact ⟨_, unit, by rw [answer, debit_short unit id amount time a found short]; rfl, rfl, tidy, rfl⟩
  debits := by
    intro p q s id amount time held payable works known covered
    refine work_done now p q s works _ rfl (· = .ok 1) _ ?_
    rintro unit tidy rfl
    obtain ⟨a, _, found, rfl⟩ := position_account unit id held known
    obtain ⟨balance, value, debited, tidyLater⟩ :=
      debit_covered unit tidy id amount time a found payable.money payable.nonneg (not_lt.mp covered)
    refine ⟨_, _, by rw [answer, debited]; rfl, rfl, tidyLater, ?_⟩
    rw [update_position unit id a balance time found, value]
  credits := by
    intro p q s id amount time held payable works known room
    refine work_done now p q s works _ rfl (· = .ok 1) _ ?_
    rintro unit tidy rfl
    obtain ⟨a, _, found, rfl⟩ := position_account unit id held known
    obtain ⟨balance, value, credited, tidyLater⟩ :=
      credit_roomy unit tidy id amount time a found payable.money payable.nonneg room
    refine ⟨_, _, by rw [answer, credited]; rfl, rfl, tidyLater, ?_⟩
    rw [update_position unit id a balance time found, value]
  appends := by
    intro p q s id amount time held writable works _
    refine work_done now p q s works _ rfl (fun reply => ∃ made, reply = .ok made) _ ?_
    rintro unit tidy rfl
    refine ⟨_, _, by rw [answer, append_done unit id amount time writable.money]; rfl, ⟨_, rfl⟩, ?_, ?_⟩
    · exact ⟨tidy.distinct, tidy.money⟩
    · exact append_position unit ⟨id, amount, time⟩

end DoubleEntry.Book
