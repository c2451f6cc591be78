import DoubleEntry.Proofs.Book.Balanced

/-!
The order that books keep, whatever they are asked: entries are numbered from 1 in the order of the journal, and
accounts stand under their ids, each once.
-/

set_option autoImplicit false

namespace DoubleEntry.Book

open Time (Stamp)

-- Accounts stand under their own ids, as in a map that is ordered by them.
def Keyed (b : Book) : Prop := (b.accounts.map Account.id).Pairwise (· < ·)

instance (b : Book) : Decidable b.Keyed := inferInstanceAs (Decidable (List.Pairwise _ _))

theorem keyed_nodup (b : Book) (keyed : b.Keyed) : (b.accounts.map Account.id).Nodup := keyed.imp ne_of_lt

theorem keyed_found (b : Book) (keyed : b.Keyed) (a : Account) (member : a ∈ b.accounts) :
    b.account? a.id = some a := by
  cases found : b.account? a.id with
  | none => exact absurd rfl (free_account b a.id found a member)
  | some other =>
      have same : other.id = a.id := account_id b a.id other found
      rw [List.inj_on_of_nodup_map (keyed_nodup b keyed) (account_mem b a.id other found) member same]

structure InOrder (b : Book) : Prop where
  numbered : b.entries.map Entry.id = (List.range' 1 b.entries.length).map fun (n : Nat) => (n : Int)
  last : b.lastEntry = b.entries.length
  sorted : (b.accounts.map Account.id).Pairwise (· < ·)

theorem empty_in_order : empty.InOrder := ⟨rfl, rfl, .nil⟩

theorem entry_number (b : Book) (order : b.InOrder) (e : Entry) (member : e ∈ b.entries) :
    1 ≤ e.id ∧ e.id ≤ b.entries.length := by
  have among : e.id ∈ b.entries.map Entry.id := List.mem_map_of_mem member
  rw [order.numbered] at among
  obtain ⟨n, within, same⟩ := List.mem_map.mp among
  obtain ⟨first, last⟩ := List.mem_range'_1.mp within
  omega

theorem account_found (b : Book) (order : b.InOrder) (a : Account) (member : a ∈ b.accounts) :
    b.account? a.id = some a := keyed_found b order.sorted a member

theorem insert_sorted (a : Account) (accounts : List Account) (free : ∀ other ∈ accounts, other.id ≠ a.id)
    (sorted : (accounts.map Account.id).Pairwise (· < ·)) :
    ((insertAccount a accounts).map Account.id).Pairwise (· < ·) := by
  induction accounts with
  | nil => exact List.pairwise_singleton _ _
  | cons head tail ih =>
      obtain ⟨above, tailSorted⟩ := List.pairwise_cons.mp sorted
      have headFree : head.id ≠ a.id := free head (by simp)
      rw [insertAccount]
      by_cases before : a.id < head.id
      · rw [if_pos before]
        refine List.pairwise_cons.mpr ⟨?_, sorted⟩
        intro id member
        rcases List.mem_cons.mp member with rfl | later
        · exact before
        · exact lt_trans before (above id later)
      · rw [if_neg before]
        refine List.pairwise_cons.mpr ⟨?_, ih (fun other member => free other (by simp [member])) tailSorted⟩
        intro id member
        obtain ⟨other, among, rfl⟩ := List.mem_map.mp member
        rcases (mem_insert a other tail).mp among with rfl | old
        · exact lt_of_le_of_ne (not_lt.mp before) headFree
        · exact above other.id (List.mem_map_of_mem old)

theorem create_keyed (b : Book) (keyed : b.Keyed) (a reply : Account) (after : Book)
    (created : b.create a = .ok (reply, after)) : after.Keyed := by
  obtain ⟨_, _, free, _, rfl⟩ := create_ok b a reply after created
  exact insert_sorted a b.accounts (free_account b a.id free) keyed

theorem update_keyed (b : Book) (keyed : b.Keyed) (id : AccountId) (balance : Decimal) (now : Stamp) :
    (b.update id fun a => { a with balance, modified := now }).Keyed := by
  rw [Keyed, update_ids b id (fun a => { a with balance, modified := now }) fun _ => rfl]
  exact keyed

theorem create_in_order (b : Book) (order : b.InOrder) (a reply : Account) (after : Book)
    (created : b.create a = .ok (reply, after)) : after.InOrder := by
  have sorted := create_keyed b order.sorted a reply after created
  obtain ⟨_, _, _, _, rfl⟩ := create_ok b a reply after created
  exact ⟨order.numbered, order.last, sorted⟩

theorem append_in_order (b : Book) (order : b.InOrder) (e : NewEntry) (entry : Entry) (after : Book)
    (appended : b.append e = .ok (entry, after)) : after.InOrder := by
  obtain ⟨_, rfl, rfl⟩ := append_ok b e entry after appended
  refine ⟨?_, ?_, order.sorted⟩
  · simp only [List.map_append, order.numbered, List.length_append, List.length_singleton, List.range'_concat,
      List.map_singleton, order.last, one_mul]
    rw [Int.add_comm]
    rfl
  · rw [List.length_append, List.length_singleton, order.last]

theorem update_in_order (b : Book) (order : b.InOrder) (id : AccountId) (balance : Decimal) (now : Stamp) :
    (b.update id fun a => { a with balance, modified := now }).InOrder :=
  ⟨order.numbered, order.last, update_keyed b order.sorted id balance now⟩

theorem debit_in_order (b : Book) (order : b.InOrder) (id : AccountId) (amount : Decimal) (now : Stamp) (n : Nat)
    (after : Book) (debited : b.debit id amount now = .ok (n, after)) : after.InOrder :=
  debit_after InOrder b order (update_in_order b order) id amount now n after debited

theorem credit_in_order (b : Book) (order : b.InOrder) (id : AccountId) (amount : Decimal) (now : Stamp) (n : Nat)
    (after : Book) (credited : b.credit id amount now = .ok (n, after)) : after.InOrder :=
  credit_after InOrder b order (update_in_order b order) id amount now n after credited

theorem answer_in_order (b : Book) (order : b.InOrder) (c : Call) (reply : Except StoreError c.Reply) (after : Book)
    (answered : b.answer c = .ok (reply, after)) : after.InOrder :=
  answer_after InOrder b order (create_in_order b order) (debit_in_order b order) (credit_in_order b order)
    (append_in_order b order) c reply after answered

end DoubleEntry.Book
