import DoubleEntry.Proofs.Book.Order
import DoubleEntry.Proofs.Ledger.Posting

/-!
Dates in the books. An account was opened with the date of its first entry and last changed with the date of its last one:
opening and posting write both at once, and nothing else writes either.
-/

set_option autoImplicit false

namespace DoubleEntry

open Time (Stamp)

namespace Book

structure Dated (b : Book) : Prop where
  first : ∀ a ∈ b.accounts, (b.entriesOf a.id).head?.map Entry.created = some a.created
  last : ∀ a ∈ b.accounts, (b.entriesOf a.id).getLast?.map Entry.created = some a.modified

theorem empty_dated : empty.Dated := ⟨nofun, nofun⟩

theorem opened_dated (b : Book) (balanced : b.Balanced) (dated : b.Dated) (a : Account) (opening : b.Opening a)
    (fresh : a.modified = a.created) : (b.opened a).Dated := by
  have others := free_account b a.id opening.free
  have entries := opened_entries b a
  have own : (b.opened a).entriesOf a.id = [b.next ⟨a.id, a.balance, a.created⟩] := by
    rw [entries, no_entries b balanced a.id opening.free, if_pos rfl, List.nil_append]
  constructor
  · intro other member
    rcases (mem_insert a other b.accounts).mp member with rfl | old
    · rw [own]
      rfl
    · rw [entries, if_neg (Ne.symm (others other old)), List.append_nil]
      exact dated.first other old
  · intro other member
    rcases (mem_insert a other b.accounts).mp member with rfl | old
    · rw [own, fresh]
      rfl
    · rw [entries, if_neg (Ne.symm (others other old)), List.append_nil]
      exact dated.last other old

theorem post_dated (b : Book) (dated : b.Dated) (balance : Decimal) (e : NewEntry) : (b.post balance e).Dated := by
  have entries := post_entries b balance e
  constructor
  · intro a member
    obtain ⟨old, oldMember, id, created, _⟩ := post_accounts b balance e a member
    have first := dated.first old oldMember
    rw [entries, id, created, List.head?_append_of_ne_nil]
    · exact first
    · intro none
      rw [none] at first
      cases first
  · intro a member
    obtain ⟨old, oldMember, id, _, ⟨own, _, modified⟩ | ⟨other, _, modified⟩⟩ := post_accounts b balance e a member
    · rw [entries, id, own, if_pos rfl, modified, List.getLast?_concat]
      rfl
    · rw [entries, id, if_neg (Ne.symm other), List.append_nil, modified]
      exact dated.last old oldMember

theorem dates_by_number [Preorder Stamp] (b : Book) (order : b.InOrder)
    (ordered : b.entries.Pairwise fun x y => x.created ≤ y.created) :
    ∀ x ∈ b.entries, ∀ y ∈ b.entries, x.id ≤ y.id → x.created ≤ y.created := by
  have number : ∀ (i : Nat) (within : i < b.entries.length), b.entries[i].id = 1 + i := by
    intro i within
    have here := congrArg (fun ids => ids[i]?) order.numbered
    simpa [within] using here
  intro x memberX y memberY earlier
  obtain ⟨i, withinX, rfl⟩ := List.getElem_of_mem memberX
  obtain ⟨j, withinY, rfl⟩ := List.getElem_of_mem memberY
  rw [number i withinX, number j withinY] at earlier
  rcases Nat.lt_or_eq_of_le (show i ≤ j by omega) with before | rfl
  · exact List.pairwise_iff_getElem.mp ordered i j withinX withinY before
  · exact le_refl _

theorem dated_span [Preorder Stamp] (b : Book) (dated : b.Dated)
    (ordered : b.entries.Pairwise fun x y => x.created ≤ y.created) (a : Account) (member : a ∈ b.accounts) :
    a.created ≤ a.modified := by
  have first := dated.first a member
  have last := dated.last a member
  have own : (b.entriesOf a.id).Pairwise fun x y => x.created ≤ y.created := ordered.filter _
  cases entries : b.entriesOf a.id with
  | nil =>
      rw [entries] at first
      cases first
  | cons e rest =>
      rw [entries] at first last own
      rw [List.getLast?_eq_some_getLast (List.cons_ne_nil e rest)] at last
      rw [← Option.some.inj first, ← Option.some.inj last]
      rcases List.mem_cons.mp (List.getLast_mem (List.cons_ne_nil e rest)) with same | later
      · rw [same]
      · exact (List.pairwise_cons.mp own).1 _ later

section Order

variable [Preorder Stamp]

/-- A journal in the order of its dates, all of which the clock has shown. -/
structure Sequenced (readings : List Stamp) (b : Book) : Prop where
  ordered : b.entries.Pairwise fun x y => x.created ≤ y.created
  seen : ∀ e ∈ b.entries, e.created ∈ readings

-- What has been read in a unit of work is no earlier than what its copy has been dated with.
structure Open (readings : List Stamp) (reading : Option Stamp) (copy : Book) : Prop where
  sequenced : copy.Sequenced readings
  latest : ∀ now, reading = some now → now ∈ readings ∧ ∀ e ∈ copy.entries, e.created ≤ now

theorem sequenced_more (readings more : List Stamp) (b : Book) (sequenced : b.Sequenced readings) :
    b.Sequenced (readings ++ more) :=
  ⟨sequenced.ordered, fun e member => List.mem_append_left _ (sequenced.seen e member)⟩

theorem open_more (readings more : List Stamp) (reading : Option Stamp) (copy : Book) (fine : copy.Open readings reading) :
    copy.Open (readings ++ more) reading :=
  ⟨sequenced_more readings more copy fine.sequenced, fun now own =>
    ⟨List.mem_append_left _ (fine.latest now own).1, (fine.latest now own).2⟩⟩

theorem open_read (readings : List Stamp) (now : Stamp) (copy : Book) (sequenced : copy.Sequenced readings)
    (ordered : (readings ++ [now]).Pairwise (· ≤ ·)) : copy.Open (readings ++ [now]) (some now) := by
  refine ⟨sequenced_more readings [now] copy sequenced, ?_⟩
  rintro _ ⟨⟩
  refine ⟨List.mem_append_right _ (List.mem_singleton_self now), fun e member => ?_⟩
  exact (List.pairwise_append.mp ordered).2.2 _ (sequenced.seen e member) now (List.mem_singleton_self now)

theorem open_answer (readings : List Stamp) (reading : Option Stamp) (copy : Book) (fine : copy.Open readings reading)
    (c : Call) (own : ∀ e, c = .append e → reading = some e.created) (reply : Except StoreError c.Reply) (after : Book)
    (answered : copy.answer c = .ok (reply, after)) : after.Open readings reading := by
  rcases answer_entries copy c reply after answered with same | ⟨e, entry, appends, created, more⟩
  · refine ⟨⟨?_, ?_⟩, ?_⟩
    · rw [same]
      exact fine.sequenced.ordered
    · rw [same]
      exact fine.sequenced.seen
    · rw [same]
      exact fine.latest
  · have read := own e appends
    obtain ⟨shown, latest⟩ := fine.latest e.created read
    have every : ∀ other ∈ after.entries, other ∈ copy.entries ∨ other.created = e.created := by
      intro other member
      rw [more] at member
      rcases List.mem_append.mp member with old | new
      · exact .inl old
      · exact .inr (by rw [List.mem_singleton.mp new, created])
    refine ⟨⟨?_, ?_⟩, ?_⟩
    · rw [more, List.pairwise_append]
      refine ⟨fine.sequenced.ordered, List.pairwise_singleton _ _, fun x old y new => ?_⟩
      rw [List.mem_singleton.mp new, created]
      exact latest x old
    · intro other member
      rcases every other member with old | dated
      · exact fine.sequenced.seen other old
      · rwa [dated]
    · rintro now same
      cases read.symm.trans same
      refine ⟨shown, fun other member => ?_⟩
      rcases every other member with old | dated
      · exact latest other old
      · exact le_of_eq dated

end Order

end Book

theorem Ledger.writes_dated (now : Stamp) (book later : Book) (balanced : book.Balanced) (dated : book.Dated)
    (o : Operation) (writes : Writes now book later o) : later.Dated := by
  cases o with
  | createAccount input =>
      obtain ⟨opening, rfl⟩ := account_opens now book later input writes
      exact Book.opened_dated book balanced dated _ opening rfl
  | createTransfer input =>
      obtain ⟨reduced, raised, _, _, rfl⟩ := transfer_posts now book later balanced input writes
      exact Book.post_dated _ (Book.post_dated book dated reduced _) raised _
  | getBalance id | listEntries id => cases writes

end DoubleEntry
