import DoubleEntry.Proofs.Book.Writes
import DoubleEntry.Proofs.Decimal.Value
import Mathlib

/-!
Balanced books: the balance of each account is the sum of its entries, at every one of which it was neither
negative nor at the limit. Accounts are opened, and entries are posted together with the balances that they lead to;
both keep books balanced.
-/

set_option autoImplicit false

namespace DoubleEntry

open Time (Stamp)

def total (entries : List Entry) : ℚ := (entries.map fun e => e.amount.value).sum

@[simp] theorem total_nil : total [] = 0 := rfl

@[simp] theorem total_append (first second : List Entry) : total (first ++ second) = total first + total second := by
  simp [total]

@[simp] theorem total_singleton (e : Entry) : total [e] = e.amount.value := by
  simp [total]

namespace Book

structure Balanced (b : Book) : Prop where
  distinct : (b.accounts.map Account.id).Nodup
  positive : ∀ a ∈ b.accounts, 1 ≤ a.id
  balance : ∀ a ∈ b.accounts, a.balance.value = total (b.entriesOf a.id)
  scale : ∀ a ∈ b.accounts, a.balance.scale = 5
  entryScale : ∀ e ∈ b.entries, e.amount.scale = 5
  bounded : ∀ (id : AccountId) (first : List Entry), first <+: b.entriesOf id →
    0 ≤ total first ∧ total first < 10 ^ 23
  owned : ∀ e ∈ b.entries, ∃ a ∈ b.accounts, a.id = e.account

theorem empty_balanced : empty.Balanced := by
  refine ⟨List.nodup_nil, ?_, ?_, ?_, ?_, ?_, ?_⟩
  · intro a member
    cases member
  · intro a member
    cases member
  · intro a member
    cases member
  · intro e member
    cases member
  · intro id first isPrefix
    rw [List.prefix_nil.mp isPrefix]
    exact ⟨le_refl 0, by norm_num⟩
  · intro e member
    cases member

theorem balanced_money (b : Book) (balanced : b.Balanced) (a : Account) (member : a ∈ b.accounts) :
    a.balance.IsMoney ∧ 0 ≤ a.balance.value := by
  have bounds := balanced.bounded a.id _ (List.prefix_refl _)
  rw [← balanced.balance a member] at bounds
  exact ⟨⟨balanced.scale a member, by rw [abs_of_nonneg bounds.1]; exact bounds.2⟩, bounds.1⟩

theorem balanced_positive (b : Book) (balanced : b.Balanced) (id : AccountId) (a : Account)
    (found : b.account? id = some a) : 1 ≤ id := by
  have own := balanced.positive a (account_mem b id a found)
  rwa [account_id b id a found] at own

theorem entries_of_append (entries : List Entry) (e : Entry) (id : AccountId) :
    (entries ++ [e]).filter (fun x => x.account == id) =
      entries.filter (fun x => x.account == id) ++ if e.account = id then [e] else [] := by
  rw [List.filter_append]
  by_cases own : e.account = id
  · simp [own]
  · simp [own]

theorem bounded_append (entries : List Entry) (e : Entry)
    (bounded : ∀ first, first <+: entries → 0 ≤ total first ∧ total first < 10 ^ 23)
    (whole : 0 ≤ total (entries ++ [e]) ∧ total (entries ++ [e]) < 10 ^ 23) (first : List Entry)
    (isPrefix : first <+: entries ++ [e]) : 0 ≤ total first ∧ total first < 10 ^ 23 := by
  rcases List.prefix_concat_iff.mp isPrefix with rfl | earlier
  · exact whole
  · exact bounded first earlier

def next (b : Book) (e : NewEntry) : Entry := ⟨b.lastEntry + 1, e.account, e.amount, e.created⟩

-- An account that is new, with the entry that makes up its balance.
def opened (b : Book) (a : Account) : Book :=
  ⟨insertAccount a b.accounts, b.entries ++ [b.next ⟨a.id, a.balance, a.created⟩], b.lastEntry + 1⟩

-- An entry, and the balance to which it leads.
def post (b : Book) (balance : Decimal) (e : NewEntry) : Book :=
  ⟨(b.update e.account fun a => { a with balance, modified := e.created }).accounts, b.entries ++ [b.next e],
    b.lastEntry + 1⟩

structure Opening (b : Book) (a : Account) : Prop where
  free : b.account? a.id = none
  positive : 1 ≤ a.id
  money : a.balance.IsMoney
  nonneg : 0 ≤ a.balance.value

structure Posting (b : Book) (balance : Decimal) (e : NewEntry) : Prop where
  change : ∃ a, b.account? e.account = some a ∧ balance.value = a.balance.value + e.amount.value
  scale : balance.scale = 5
  entryScale : e.amount.scale = 5
  nonneg : 0 ≤ balance.value
  below : balance.value < 10 ^ 23

theorem free_account (b : Book) (id : AccountId) (free : b.account? id = none) : ∀ a ∈ b.accounts, a.id ≠ id := by
  simpa [account?] using free

theorem mem_insert (a other : Account) (accounts : List Account) :
    other ∈ insertAccount a accounts ↔ other = a ∨ other ∈ accounts := by
  rw [(insert_perm a accounts).mem_iff, List.mem_cons]

theorem opened_account (b : Book) (a : Account) (free : b.account? a.id = none) (id : AccountId) :
    (b.opened a).account? id = if a.id = id then some a else b.account? id :=
  find_insert a b.accounts id (free_account b a.id free)

theorem opened_entries (b : Book) (a : Account) (id : AccountId) : (b.opened a).entriesOf id =
    b.entriesOf id ++ if a.id = id then [b.next ⟨a.id, a.balance, a.created⟩] else [] :=
  entries_of_append b.entries (b.next ⟨a.id, a.balance, a.created⟩) id

theorem post_entries (b : Book) (balance : Decimal) (e : NewEntry) (id : AccountId) : (b.post balance e).entriesOf id =
    b.entriesOf id ++ if e.account = id then [b.next e] else [] := entries_of_append b.entries (b.next e) id

theorem no_entries (b : Book) (balanced : b.Balanced) (id : AccountId) (free : b.account? id = none) :
    b.entriesOf id = [] := by
  apply List.filter_eq_nil_iff.mpr
  intro x member own
  obtain ⟨owner, ownerMember, same⟩ := balanced.owned x member
  exact free_account b id free owner ownerMember (same.trans (by simpa using own))

theorem opened_balanced (b : Book) (balanced : b.Balanced) (a : Account) (opening : b.Opening a) :
    (b.opened a).Balanced := by
  have fresh := free_account b a.id opening.free
  have none := no_entries b balanced a.id opening.free
  have entries := opened_entries b a
  have first : (b.opened a).entriesOf a.id = [b.next ⟨a.id, a.balance, a.created⟩] := by
    rw [entries, none, if_pos rfl, List.nil_append]
  refine ⟨?_, ?_, ?_, ?_, ?_, ?_, ?_⟩
  · apply ((insert_perm a b.accounts).map Account.id).nodup_iff.mpr
    rw [List.map_cons, List.nodup_cons]
    refine ⟨?_, balanced.distinct⟩
    intro taken
    obtain ⟨other, member, same⟩ := List.mem_map.mp taken
    exact fresh other member same
  · intro other member
    rcases (mem_insert a other b.accounts).mp member with rfl | old
    · exact opening.positive
    · exact balanced.positive other old
  · intro other member
    rcases (mem_insert a other b.accounts).mp member with rfl | old
    · rw [first, total_singleton]
      rfl
    · rw [entries, if_neg (Ne.symm (fresh other old)), List.append_nil]
      exact balanced.balance other old
  · intro other member
    rcases (mem_insert a other b.accounts).mp member with rfl | old
    · exact opening.money.scale
    · exact balanced.scale other old
  · intro x member
    rcases List.mem_append.mp member with old | new
    · exact balanced.entryScale x old
    · rw [List.mem_singleton.mp new]
      exact opening.money.scale
  · intro id
    rw [entries]
    by_cases own : a.id = id
    · subst own
      rw [if_pos rfl]
      apply bounded_append _ _ (balanced.bounded a.id)
      rw [none, List.nil_append, total_singleton]
      exact ⟨opening.nonneg, lt_of_le_of_lt (le_abs_self _) opening.money.below⟩
    · rw [if_neg own, List.append_nil]
      exact balanced.bounded id
  · intro x member
    rcases List.mem_append.mp member with old | new
    · obtain ⟨owner, ownerMember, same⟩ := balanced.owned x old
      exact ⟨owner, (mem_insert a owner b.accounts).mpr (.inr ownerMember), same⟩
    · rw [List.mem_singleton.mp new]
      exact ⟨a, (mem_insert a a b.accounts).mpr (.inl rfl), rfl⟩

theorem post_accounts (b : Book) (balance : Decimal) (e : NewEntry) (a : Account)
    (member : a ∈ (b.post balance e).accounts) :
    ∃ old ∈ b.accounts, a.id = old.id ∧ a.created = old.created ∧
      (old.id = e.account ∧ a.balance = balance ∧ a.modified = e.created ∨
        old.id ≠ e.account ∧ a.balance = old.balance ∧ a.modified = old.modified) := by
  obtain ⟨old, oldMember, changed⟩ := List.mem_map.mp member
  refine ⟨old, oldMember, ?_⟩
  by_cases own : old.id = e.account
  · rw [if_pos (by simpa using own)] at changed
    subst changed
    exact ⟨rfl, rfl, .inl ⟨own, rfl, rfl⟩⟩
  · rw [if_neg (by simpa using own)] at changed
    subst changed
    exact ⟨rfl, rfl, .inr ⟨own, rfl, rfl⟩⟩

theorem post_ids (b : Book) (balance : Decimal) (e : NewEntry) :
    (b.post balance e).accounts.map Account.id = b.accounts.map Account.id :=
  update_ids b e.account _ fun _ => rfl

theorem post_balanced (b : Book) (balanced : b.Balanced) (balance : Decimal) (e : NewEntry)
    (posting : b.Posting balance e) : (b.post balance e).Balanced := by
  obtain ⟨account, found, change⟩ := posting.change
  have accountId := account_id b e.account account found
  have accountMember := account_mem b e.account account found
  have entries := post_entries b balance e
  -- Of the account itself, the new entry makes up for the new balance.
  have posted : total (b.entriesOf e.account ++ [b.next e]) = balance.value := by
    rw [total_append, total_singleton, change, balanced.balance account accountMember, accountId]
    rfl
  refine ⟨?_, ?_, ?_, ?_, ?_, ?_, ?_⟩
  · rw [post_ids]
    exact balanced.distinct
  · intro a member
    obtain ⟨old, oldMember, same, _, _⟩ := post_accounts b balance e a member
    rw [same]
    exact balanced.positive old oldMember
  · intro a member
    obtain ⟨old, oldMember, same, _, ⟨own, changed, _⟩ | ⟨other, kept, _⟩⟩ := post_accounts b balance e a member
    · rw [same, own, changed, entries, if_pos rfl, posted]
    · rw [same, kept, entries, if_neg (Ne.symm other), List.append_nil]
      exact balanced.balance old oldMember
  · intro a member
    obtain ⟨old, oldMember, _, _, ⟨_, changed, _⟩ | ⟨_, kept, _⟩⟩ := post_accounts b balance e a member
    · rw [changed]
      exact posting.scale
    · rw [kept]
      exact balanced.scale old oldMember
  · intro x member
    rcases List.mem_append.mp member with old | new
    · exact balanced.entryScale x old
    · rw [List.mem_singleton.mp new]
      exact posting.entryScale
  · intro id
    rw [entries]
    by_cases own : e.account = id
    · subst own
      rw [if_pos rfl]
      apply bounded_append _ _ (balanced.bounded e.account)
      rw [posted]
      exact ⟨posting.nonneg, posting.below⟩
    · rw [if_neg own, List.append_nil]
      exact balanced.bounded id
  · intro x member
    have kept : ∀ a ∈ b.accounts, ∃ later ∈ (b.post balance e).accounts, later.id = a.id := by
      intro a oldMember
      apply List.mem_map.mp
      rw [post_ids]
      exact List.mem_map_of_mem oldMember
    rcases List.mem_append.mp member with old | new
    · obtain ⟨owner, ownerMember, same⟩ := balanced.owned x old
      obtain ⟨later, laterMember, laterSame⟩ := kept owner ownerMember
      exact ⟨later, laterMember, laterSame.trans same⟩
    · obtain ⟨later, laterMember, laterSame⟩ := kept account accountMember
      rw [List.mem_singleton.mp new]
      exact ⟨later, laterMember, laterSame.trans accountId⟩

def worth (b : Book) : ℚ := (b.accounts.map fun a => a.balance.value).sum

theorem opened_worth (b : Book) (a : Account) : (b.opened a).worth = b.worth + a.balance.value := by
  have sum := ((insert_perm a b.accounts).map fun x => x.balance.value).sum_eq
  rw [List.map_cons, List.sum_cons, add_comm] at sum
  exact sum

-- Where ids are distinct, a change of one account changes a sum over all by its own difference.
theorem sum_update (accounts : List Account) (id : AccountId) (f : Account → Account) (g : Account → ℚ) (a : Account)
    (distinct : (accounts.map Account.id).Nodup) (found : accounts.find? (fun x => x.id == id) = some a) :
    ((accounts.map fun x => if x.id == id then f x else x).map g).sum = (accounts.map g).sum + (g (f a) - g a) := by
  induction accounts with
  | nil => cases found
  | cons head tail ih =>
      rw [List.map_cons, List.nodup_cons] at distinct
      by_cases hit : head.id = id
      · rw [List.find?_cons_of_pos (by simpa using hit)] at found
        cases found
        have untouched : (tail.map fun x => if x.id == id then f x else x) = tail := by
          refine (List.map_congr_left ?_).trans (List.map_id tail)
          intro x member
          have other : x.id ≠ id := by
            rintro rfl
            rw [hit] at distinct
            exact distinct.1 (List.mem_map_of_mem member)
          rw [if_neg (by simpa using other)]
          rfl
        rw [List.map_cons, untouched, if_pos (by simpa using hit), List.map_cons, List.map_cons, List.sum_cons,
          List.sum_cons]
        ring
      · rw [List.find?_cons_of_neg (by simpa using hit)] at found
        have rest := ih distinct.2 found
        simp only [List.map_cons, List.sum_cons, rest, beq_eq_false_iff_ne.mpr hit, Bool.false_eq_true, if_false]
        ring

theorem post_worth (b : Book) (balanced : b.Balanced) (balance : Decimal) (e : NewEntry)
    (posting : b.Posting balance e) : (b.post balance e).worth = b.worth + e.amount.value := by
  obtain ⟨a, found, change⟩ := posting.change
  have sum := sum_update b.accounts e.account (fun a => { a with balance, modified := e.created })
    (fun a => a.balance.value) a balanced.distinct found
  simp only [change, add_sub_cancel_left] at sum
  exact sum

end Book

end DoubleEntry
