import DoubleEntry.Store.Book

/-!
What each write does to a book, said once: its guards, and how look-ups change. Whatever is written, accounts
stay with the date on which they were opened, and the journal only grows at its end.
-/

set_option autoImplicit false

namespace DoubleEntry.Book

open Time (Stamp)

theorem has_eq_account (b : Book) (id : AccountId) : b.has id = (b.account? id).isSome :=
  List.isSome_find?.symm

theorem account_id (b : Book) (id : AccountId) (account : Account) (found : b.account? id = some account) :
    account.id = id := by
  simpa using List.find?_some found

theorem account_mem (b : Book) (id : AccountId) (account : Account) (found : b.account? id = some account) :
    account ∈ b.accounts :=
  List.mem_of_find?_eq_some found

theorem insert_perm (a : Account) (accounts : List Account) : (insertAccount a accounts).Perm (a :: accounts) := by
  induction accounts with
  | nil => exact .refl _
  | cons head tail ih =>
      rw [insertAccount]
      by_cases before : a.id < head.id
      · rw [if_pos before]
      · rw [if_neg before]
        exact (ih.cons head).trans (.swap a head tail)

theorem find_insert (a : Account) (accounts : List Account) (id : AccountId)
    (free : ∀ other ∈ accounts, other.id ≠ a.id) :
    (insertAccount a accounts).find? (fun x => x.id == id) =
      if a.id = id then some a else accounts.find? fun x => x.id == id := by
  induction accounts with
  | nil =>
      rw [insertAccount]
      by_cases hit : a.id = id <;> simp [hit]
  | cons head tail ih =>
      have headFree : head.id ≠ a.id := free head (by simp)
      have tailFound := ih fun other member => free other (by simp [member])
      rw [insertAccount]
      by_cases before : a.id < head.id
      · rw [if_pos before]
        by_cases hit : a.id = id <;> simp [hit]
      · rw [if_neg before, List.find?_cons, List.find?_cons, tailFound]
        by_cases hit : a.id = id
        · have missed : (head.id == id) = false := by simpa [← hit] using headFree
          simp [missed, hit]
        · simp [hit]

theorem find_update (accounts : List Account) (id other : AccountId) (f : Account → Account)
    (kept : ∀ a, (f a).id = a.id) :
    (accounts.map fun a => if a.id == id then f a else a).find? (fun x => x.id == other) =
      (accounts.find? fun x => x.id == other).map fun a => if a.id == id then f a else a := by
  induction accounts with
  | nil => rfl
  | cons head tail ih =>
      have headKept : (if head.id == id then f head else head).id = head.id := by
        split
        · exact kept head
        · rfl
      rw [List.map_cons, List.find?_cons, List.find?_cons, headKept, ih]
      cases head.id == other <;> rfl

theorem account_update (b : Book) (id other : AccountId) (f : Account → Account) (kept : ∀ a, (f a).id = a.id) :
    (b.update id f).account? other = (b.account? other).map fun a => if a.id == id then f a else a :=
  find_update b.accounts id other f kept

theorem account_kept (b : Book) (id other : AccountId) (f : Account → Account) (kept : ∀ a, (f a).id = a.id)
    (different : id ≠ other) : (b.update id f).account? other = b.account? other := by
  rw [account_update b id other f kept]
  cases found : b.account? other with
  | none => rfl
  | some a =>
      have own := account_id b other a found
      simp [own, different.symm]

theorem update_ids (b : Book) (id : AccountId) (f : Account → Account) (kept : ∀ a, (f a).id = a.id) :
    (b.update id f).accounts.map Account.id = b.accounts.map Account.id := by
  rw [update, List.map_map]
  apply List.map_congr_left
  intro a _
  by_cases own : (a.id == id) = true
  · simp only [Function.comp_apply, if_pos own, kept]
  · simp only [Function.comp_apply, if_neg own]

theorem create_ok (b : Book) (a reply : Account) (after : Book) (created : b.create a = .ok (reply, after)) :
    1 ≤ a.id ∧ Amount.isBelowLimit a.balance = true ∧ b.account? a.id = none ∧ reply = a ∧
      after = { b with accounts := insertAccount a b.accounts } := by
  rw [create] at created
  by_cases positive : a.id < 1
  · rw [if_pos positive] at created
    cases created
  · by_cases below : Amount.isBelowLimit a.balance = true
    · by_cases taken : b.has a.id = true
      · rw [if_neg positive, below, if_pos taken] at created
        cases created
      · rw [if_neg positive, below, if_neg taken] at created
        cases created
        rw [has_eq_account] at taken
        exact ⟨Int.not_lt.mp positive, below, by simpa using taken, rfl, rfl⟩
    · rw [if_neg positive, eq_false_of_ne_true below] at created
      cases created

theorem append_ok (b : Book) (e : NewEntry) (entry : Entry) (after : Book)
    (appended : b.append e = .ok (entry, after)) :
    Amount.isBelowLimit e.amount = true ∧ entry = ⟨b.lastEntry + 1, e.account, e.amount, e.created⟩ ∧
      after = { b with entries := b.entries ++ [entry], lastEntry := b.lastEntry + 1 } := by
  rw [append] at appended
  by_cases below : Amount.isBelowLimit e.amount = true
  · rw [if_pos below] at appended
    cases appended
    exact ⟨below, rfl, rfl⟩
  · rw [if_neg below] at appended
    cases appended

theorem debit_ok (b : Book) (id : AccountId) (amount : Decimal) (now : Stamp) (n : Nat) (after : Book)
    (debited : b.debit id amount now = .ok (n, after)) :
    (n = 0 ∧ after = b) ∨ ∃ a balance, b.account? id = some a ∧ amount.numLe a.balance = true ∧
      a.balance.sub? amount = some balance ∧ n = 1 ∧
      after = b.update id fun a => { a with balance, modified := now } := by
  rw [debit] at debited
  cases found : b.account? id with
  | none =>
      rw [found] at debited
      cases debited
      exact .inl ⟨rfl, rfl⟩
  | some a =>
      simp only [found] at debited
      by_cases enough : amount.numLe a.balance = true
      · rw [if_pos enough] at debited
        cases difference : a.balance.sub? amount with
        | none => simp [difference] at debited
        | some balance =>
            simp only [difference, Except.ok.injEq, Prod.mk.injEq] at debited
            exact .inr ⟨a, balance, rfl, enough, difference, debited.1.symm, debited.2.symm⟩
      · rw [if_neg enough] at debited
        cases debited
        exact .inl ⟨rfl, rfl⟩

theorem credit_ok (b : Book) (id : AccountId) (amount : Decimal) (now : Stamp) (n : Nat) (after : Book)
    (credited : b.credit id amount now = .ok (n, after)) :
    (n = 0 ∧ after = b) ∨ ∃ a balance, b.account? id = some a ∧ a.balance.add? amount = some balance ∧
      Amount.isBelowLimit balance = true ∧ n = 1 ∧
      after = b.update id fun a => { a with balance, modified := now } := by
  rw [credit] at credited
  cases found : b.account? id with
  | none =>
      rw [found] at credited
      cases credited
      exact .inl ⟨rfl, rfl⟩
  | some a =>
      simp only [found] at credited
      cases total : a.balance.add? amount with
      | none => simp [total] at credited
      | some balance =>
          simp only [total] at credited
          by_cases below : Amount.isBelowLimit balance = true
          · rw [if_pos below] at credited
            simp only [Except.ok.injEq, Prod.mk.injEq] at credited
            exact .inr ⟨a, balance, rfl, total, below, credited.1.symm, credited.2.symm⟩
          · rw [if_neg below] at credited
            cases credited

section Updates

variable (P : Book → Prop) (b : Book) (same : P b)
  (updated : ∀ id balance (now : Stamp), P (b.update id fun a => { a with balance, modified := now }))
  (id : AccountId) (amount : Decimal) (now : Stamp) (n : Nat) (after : Book)

include same updated

theorem debit_after (debited : b.debit id amount now = .ok (n, after)) : P after := by
  rcases debit_ok b id amount now n after debited with ⟨_, rfl⟩ | ⟨_, balance, _, _, _, _, rfl⟩
  · exact same
  · exact updated id balance now

theorem credit_after (credited : b.credit id amount now = .ok (n, after)) : P after := by
  rcases credit_ok b id amount now n after credited with ⟨_, rfl⟩ | ⟨_, balance, _, _, _, _, rfl⟩
  · exact same
  · exact updated id balance now

end Updates

structure Extends (b later : Book) : Prop where
  accounts : ∀ id account, b.account? id = some account →
    ∃ kept, later.account? id = some kept ∧ kept.created = account.created
  entries : b.entries <+: later.entries

theorem extends_refl (b : Book) : b.Extends b :=
  ⟨fun _ account found => ⟨account, found, rfl⟩, List.prefix_refl _⟩

theorem extends_trans (a b c : Book) (first : a.Extends b) (second : b.Extends c) : a.Extends c := by
  refine ⟨?_, first.entries.trans second.entries⟩
  intro id account found
  obtain ⟨kept, foundB, created⟩ := first.accounts id account found
  obtain ⟨keptC, foundC, createdC⟩ := second.accounts id kept foundB
  exact ⟨keptC, foundC, createdC.trans created⟩

theorem update_extends (b : Book) (id : AccountId) (balance : Decimal) (now : Stamp) :
    b.Extends (b.update id fun a => { a with balance, modified := now }) := by
  refine ⟨?_, List.prefix_refl _⟩
  intro other account found
  rw [account_update b id other (fun a => { a with balance, modified := now }) (fun _ => rfl), found]
  refine ⟨_, rfl, ?_⟩
  cases hit : account.id == id <;> simp [hit]

theorem create_extends (b : Book) (a reply : Account) (after : Book) (created : b.create a = .ok (reply, after)) :
    b.Extends after := by
  obtain ⟨_, _, free, _, rfl⟩ := create_ok b a reply after created
  refine ⟨?_, List.prefix_refl _⟩
  intro id account found
  have absent : ∀ other ∈ b.accounts, other.id ≠ a.id := by
    simpa [account?] using free
  have different : a.id ≠ id := by
    intro same
    rw [same] at free
    rw [free] at found
    cases found
  refine ⟨account, ?_, rfl⟩
  simpa only [account?, find_insert a b.accounts id absent, if_neg different] using found

theorem debit_extends (b : Book) (id : AccountId) (amount : Decimal) (now : Stamp) (n : Nat) (after : Book)
    (debited : b.debit id amount now = .ok (n, after)) : b.Extends after :=
  debit_after b.Extends b (extends_refl b) (update_extends b) id amount now n after debited

theorem credit_extends (b : Book) (id : AccountId) (amount : Decimal) (now : Stamp) (n : Nat) (after : Book)
    (credited : b.credit id amount now = .ok (n, after)) : b.Extends after :=
  credit_after b.Extends b (extends_refl b) (update_extends b) id amount now n after credited

theorem append_extends (b : Book) (e : NewEntry) (entry : Entry) (after : Book)
    (appended : b.append e = .ok (entry, after)) : b.Extends after := by
  obtain ⟨_, _, rfl⟩ := append_ok b e entry after appended
  exact ⟨fun _ account found => ⟨account, found, rfl⟩, List.prefix_append _ _⟩

theorem written_cases {α : Type} (b : Book) (w : Written α) (reply : Except StoreError α) (after : Book)
    (done : b.written w = (reply, after)) :
    (∃ e, reply = .error e ∧ after = b) ∨ ∃ value, reply = .ok value ∧ w = .ok (value, after) := by
  cases w with
  | ok result =>
      cases done
      exact .inr ⟨_, rfl, rfl⟩
  | error e =>
      cases done
      exact .inl ⟨e, rfl, rfl⟩

theorem written_after {α : Type} (P : Book → Prop) (b : Book) (same : P b) (w : Written α)
    (kept : ∀ value later, w = .ok (value, later) → P later) (reply : Except StoreError α) (after : Book)
    (done : b.written w = (reply, after)) : P after := by
  rcases written_cases b w reply after done with ⟨_, _, rfl⟩ | ⟨value, _, written⟩
  · exact same
  · exact kept value after written

-- What holds of a book, and behind each of the four writes that succeed, holds behind any call.
theorem answer_after (P : Book → Prop) (b : Book) (same : P b)
    (created : ∀ a reply later, b.create a = .ok (reply, later) → P later)
    (debited : ∀ id amount now n later, b.debit id amount now = .ok (n, later) → P later)
    (credited : ∀ id amount now n later, b.credit id amount now = .ok (n, later) → P later)
    (appended : ∀ e entry later, b.append e = .ok (entry, later) → P later)
    (c : Call) (reply : Except StoreError c.Reply) (after : Book) (answered : b.answer c = .ok (reply, after)) :
    P after := by
  cases c with
  | createAccount a => exact written_after P b same _ (created a) reply after (Except.ok.inj answered)
  | credit id amount now => exact written_after P b same _ (credited id amount now) reply after (Except.ok.inj answered)
  | append e => exact written_after P b same _ (appended e) reply after (Except.ok.inj answered)
  | debit id amount now =>
      cases done : b.debit id amount now with
      | error e => simp [answer, done, Except.map] at answered
      | ok result =>
          simp only [answer, done, Except.map, Except.ok.injEq, Prod.mk.injEq] at answered
          rw [← answered.2]
          exact debited id amount now result.1 result.2 done
  | getAccount id | listEntries id | begin | getAccounts ids | commit | rollback =>
      cases answered
      exact same

theorem answer_extends (b : Book) (c : Call) (reply : Except StoreError c.Reply) (after : Book)
    (answered : b.answer c = .ok (reply, after)) : b.Extends after :=
  answer_after b.Extends b (extends_refl b) (create_extends b) (debit_extends b) (credit_extends b) (append_extends b)
    c reply after answered

theorem answer_entries (b : Book) (c : Call) (reply : Except StoreError c.Reply) (after : Book)
    (answered : b.answer c = .ok (reply, after)) :
    after.entries = b.entries ∨ ∃ e entry, c = .append e ∧ entry.created = e.created ∧
      after.entries = b.entries ++ [entry] := by
  cases c with
  | append e =>
      refine written_after (fun later => later.entries = b.entries ∨ ∃ own entry, Call.append e = .append own ∧
        entry.created = own.created ∧ later.entries = b.entries ++ [entry]) b (.inl rfl) _ ?_ reply after
        (Except.ok.inj answered)
      intro entry later appended
      obtain ⟨_, rfl, rfl⟩ := append_ok b e entry later appended
      exact .inr ⟨e, _, rfl, rfl, rfl⟩
  | createAccount a =>
      left
      refine written_after (fun later => later.entries = b.entries) b rfl _ ?_ reply after (Except.ok.inj answered)
      intro account later created
      obtain ⟨_, _, _, _, rfl⟩ := create_ok b a account later created
      rfl
  | credit id amount now =>
      left
      refine written_after (fun later => later.entries = b.entries) b rfl _ ?_ reply after (Except.ok.inj answered)
      intro n later credited
      rcases credit_ok b id amount now n later credited with ⟨_, rfl⟩ | ⟨_, _, _, _, _, _, rfl⟩ <;> rfl
  | debit id amount now =>
      left
      cases done : b.debit id amount now with
      | error e => simp [answer, done, Except.map] at answered
      | ok result =>
          simp only [answer, done, Except.map, Except.ok.injEq, Prod.mk.injEq] at answered
          rw [← answered.2]
          rcases debit_ok b id amount now result.1 result.2 done with ⟨_, same⟩ | ⟨_, _, _, _, _, _, same⟩
          · rw [same]
          · rw [same]
            rfl
  | getAccount id | listEntries id | begin | getAccounts ids | commit | rollback =>
      cases answered
      exact .inl rfl

end DoubleEntry.Book
