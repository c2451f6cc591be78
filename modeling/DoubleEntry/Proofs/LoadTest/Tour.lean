import DoubleEntry.Proofs.History.Settled
import DoubleEntry.Proofs.LoadTest.Tally

/-!
The tour of a load test comes back to where it began. At as many indices in a row as there are accounts, the sources are the
accounts turned round to the first index, and the destinations are turned by one more; so each account gives once and
takes once, and balances are as they were when all of the transfers have gone ahead.
-/

set_option autoImplicit false

namespace DoubleEntry.LoadTest

open History (books successes)

def lap (ids : List AccountId) (start : Nat) : Except ArithmeticError (List (AccountId × AccountId)) :=
  (List.range' start ids.length).mapM (transferPair ids)

def transfersOf (amount : Decimal) (legs : List (AccountId × AccountId)) : List Transfer :=
  legs.map fun leg => ⟨leg.1, leg.2, amount⟩

structure Tour (ids : List AccountId) (start : Nat) (legs : List (AccountId × AccountId)) : Prop where
  each : legs.length = ids.length ∧ ∀ i < ids.length, ∃ leg, transferPair ids (start + i) = .ok leg ∧ legs[i]? = some leg
  sources : (legs.map Prod.fst).Perm ids ∧ ∀ id ∈ ids, (legs.map Prod.fst).count id = 1
  destinations : (legs.map Prod.snd).Perm ids ∧ ∀ id ∈ ids, (legs.map Prod.snd).count id = 1
  apart : ∀ leg ∈ legs, leg.1 ≠ leg.2
  -- The last one leads to where the first one started.
  round : legs.map Prod.snd = (legs.map Prod.fst).rotate 1
  next : ∀ i leg following, transferPair ids i = .ok leg → transferPair ids (i + 1) = .ok following → following.1 = leg.2

section Pairs

variable (ids : List AccountId) (start : Nat)

theorem turned_ids (shift : Nat) :
    (List.range' start ids.length).map (fun i => ids.getD ((i + shift) % ids.length) 0) = ids.rotate (start + shift) := by
  apply List.ext_getElem
  · simp
  · intro k inside _
    rw [List.length_map, List.length_range'] at inside
    have within : (start + k + shift) % ids.length < ids.length := Nat.mod_lt _ (Nat.zero_lt_of_lt inside)
    have place : start + k + shift = k + (start + shift) := by omega
    rw [List.getElem_map, List.getElem_range', Nat.one_mul, List.getD_eq_getElem _ _ within, List.getElem_rotate]
    simp only [place]

theorem lap_turns (narrow : start + ids.length < Word.bound) :
    lap ids start = .ok ((ids.rotate start).zip (ids.rotate (start + 1))) := by
  have each : ∀ i ∈ List.range' start ids.length, transferPair ids i =
      .ok (ids.getD (i % ids.length) 0, ids.getD ((i + 1) % ids.length) 0) := by
    intro i member
    obtain ⟨first, last⟩ := List.mem_range'_1.mp member
    exact pair_found ids i (by omega) (by omega)
  have sources := turned_ids ids start 0
  have destinations := turned_ids ids start 1
  simp only [Nat.add_zero] at sources
  rw [lap, all_done _ _ _ each, ← sources, ← destinations, List.zip_map']

theorem zipped_sources (shift other : Nat) : ((ids.rotate shift).zip (ids.rotate other)).map Prod.fst = ids.rotate shift :=
  List.map_fst_zip (by simp)

theorem zipped_destinations (shift other : Nat) :
    ((ids.rotate shift).zip (ids.rotate other)).map Prod.snd = ids.rotate other :=
  List.map_snd_zip (by simp)

theorem place_moves (i n : Nat) (two : 2 ≤ n) : i % n ≠ (i + 1) % n := by
  intro same
  have equal : i + 0 ≡ i + 1 [MOD n] := same
  have none : 0 % n = 1 % n := Nat.ModEq.add_left_cancel' i equal
  rw [Nat.zero_mod, Nat.mod_eq_of_lt two] at none
  cases none

theorem neighbours_apart (two : 2 ≤ ids.length) (distinct : ids.Nodup) :
    ∀ leg ∈ (ids.rotate start).zip (ids.rotate (start + 1)), leg.1 ≠ leg.2 := by
  intro leg member same
  obtain ⟨k, inside, rfl⟩ := List.getElem_of_mem member
  rw [List.getElem_zip, List.getElem_rotate, List.getElem_rotate] at same
  exact place_moves (k + start) ids.length two (distinct.getElem_inj_iff.mp same)

theorem pairs_follow (i : Nat) (leg following : AccountId × AccountId) (found : transferPair ids i = .ok leg)
    (foundNext : transferPair ids (i + 1) = .ok following) : following.1 = leg.2 := by
  have some : ids.length ≠ 0 := by
    intro empty
    simp only [transferPair, Word.mod, if_pos empty] at found
    cases found
  have narrow : i + 1 + 1 < Word.bound := by
    by_contra wide
    simp only [transferPair, Word.mod, if_neg some, Word.add, if_neg wide] at foundNext
    cases foundNext
  rw [pair_found ids i (Nat.pos_of_ne_zero some) (by omega)] at found
  rw [pair_found ids (i + 1) (Nat.pos_of_ne_zero some) narrow] at foundNext
  cases found
  cases foundNext
  rfl

theorem lap_tours (two : 2 ≤ ids.length) (distinct : ids.Nodup) (narrow : start + ids.length < Word.bound) :
    Tour ids start ((ids.rotate start).zip (ids.rotate (start + 1))) := by
  have once : ∀ shift, ∀ id ∈ ids, (ids.rotate shift).count id = 1 := fun shift id member => by
    rw [(List.rotate_perm ids shift).count_eq]
    exact List.count_eq_one_of_mem distinct member
  have count : ((ids.rotate start).zip (ids.rotate (start + 1))).length = ids.length := by simp
  refine ⟨⟨count, ?_⟩, ?_, ?_, neighbours_apart ids start two distinct, ?_, pairs_follow ids⟩
  · intro i inside
    refine ⟨_, pair_found ids (start + i) (by omega) (by omega), ?_⟩
    rw [List.getElem?_eq_getElem (by omega), List.getElem_zip, List.getElem_rotate, List.getElem_rotate,
      List.getD_eq_getElem _ _ (Nat.mod_lt _ (by omega)), List.getD_eq_getElem _ _ (Nat.mod_lt _ (by omega))]
    simp only [Nat.add_comm i start, Nat.add_left_comm i start 1, Nat.add_assoc]
  · rw [zipped_sources]
    exact ⟨List.rotate_perm ids start, once start⟩
  · rw [zipped_destinations]
    exact ⟨List.rotate_perm ids (start + 1), once (start + 1)⟩
  · rw [zipped_sources, zipped_destinations, List.rotate_rotate]

end Pairs

section Balances

def ten : Decimal := .ofWhole 10 (by decide)

theorem transfer_asks (source destination : AccountId)
    (fits : Text.isInt64 source = true ∧ Text.isInt64 destination = true) (o : Ledger.Operation)
    (asks : (makeTransfer source destination).demand.operation? = some o) :
    o = .createTransfer ⟨source, destination, ten⟩ := by
  have transfers := transfer_transfers source destination fits
  have decoded := Http.transfers_decoded _ _ transfers
  have asked : Http.operation? (makeTransfer source destination).request = some o := asks
  rw [Http.operation?, transfers.posted, transfers.route] at asked
  obtain ⟨t, read, rfl⟩ := Option.map_eq_some_iff.mp asked
  rw [decoded] at read
  cases checked : Http.TransferRequest.check ⟨some source, some destination, some transferAmount⟩ with
  | error e =>
      rw [checked] at read
      cases read
  | ok made =>
      rw [checked] at read
      cases read
      obtain ⟨own, other, text, written, parsed⟩ := Http.check_fields _ t checked
      cases own
      cases other
      cases written
      have amount : Amount.parse transferAmount = .ok ten := by decide +kernel
      have same : t.amount = ten := Except.ok.inj (parsed.symm.trans amount)
      rw [← same]

structure Returns (legs : List (AccountId × AccountId)) : Prop where
  unchanged : ∀ amount before events news,
    successes Store.empty (before ++ events) = successes Store.empty before ++ news →
    (news.map fun r => r.demand.operation?).Perm ((transfersOf amount legs).map fun t => some (.createTransfer t)) →
    (books Store.empty (before ++ events)).position.balance = (books Store.empty before).position.balance
  -- Among other transfers, those alone count.
  among : ∀ amount others before events news,
    successes Store.empty (before ++ events) = successes Store.empty before ++ news →
    (news.map fun r => r.demand.operation?).Perm
      ((transfersOf amount legs ++ others).map fun t => some (.createTransfer t)) →
    (books Store.empty (before ++ events)).position.balance = (books Store.empty before).position.settled others
  posted : (∀ leg ∈ legs, Text.isInt64 leg.1 = true ∧ Text.isInt64 leg.2 = true) → ∀ before events news,
    successes Store.empty (before ++ events) = successes Store.empty before ++ news →
    (news.map Record.demand).Perm (legs.map fun leg => (makeTransfer leg.1 leg.2).demand) →
    (books Store.empty (before ++ events)).position.balance = (books Store.empty before).position.balance

variable (legs : List (AccountId × AccountId)) (round : (legs.map Prod.fst).Perm (legs.map Prod.snd))

include round

theorem round_among (amount : Decimal) (others : List Transfer) (before events : List Event) (news : List Record)
    (grown : successes Store.empty (before ++ events) = successes Store.empty before ++ news)
    (asked : (news.map fun r => r.demand.operation?).Perm
      ((transfersOf amount legs ++ others).map fun t => some (.createTransfer t))) :
    (books Store.empty (before ++ events)).position.balance = (books Store.empty before).position.settled others := by
  have settled := History.successes_settle Store.empty Book.empty_balanced before events news grown _ asked
  have equal : ∀ t ∈ transfersOf amount legs, t.amount = amount := by
    intro t member
    obtain ⟨leg, _, rfl⟩ := List.mem_map.mp member
    rfl
  have same : ((transfersOf amount legs).map Transfer.source).Perm ((transfersOf amount legs).map Transfer.destination) := by
    rw [transfersOf, List.map_map, List.map_map]
    exact round
  rw [settled.balances, round_returns _ amount equal _ others same]

theorem round_unchanged (amount : Decimal) (before events : List Event) (news : List Record)
    (grown : successes Store.empty (before ++ events) = successes Store.empty before ++ news)
    (asked : (news.map fun r => r.demand.operation?).Perm
      ((transfersOf amount legs).map fun t => some (.createTransfer t))) :
    (books Store.empty (before ++ events)).position.balance = (books Store.empty before).position.balance := by
  have among := round_among legs round amount [] before events news grown (by rw [List.append_nil]; exact asked)
  rw [among, Position.settled_nil]

theorem round_posted (fits : ∀ leg ∈ legs, Text.isInt64 leg.1 = true ∧ Text.isInt64 leg.2 = true)
    (before events : List Event) (news : List Record)
    (grown : successes Store.empty (before ++ events) = successes Store.empty before ++ news)
    (demands : (news.map Record.demand).Perm (legs.map fun leg => (makeTransfer leg.1 leg.2).demand)) :
    (books Store.empty (before ++ events)).position.balance = (books Store.empty before).position.balance := by
  refine round_unchanged legs round ten before events news grown ?_
  have asked := demands.map Demand.operation?
  rw [List.map_map, List.map_map] at asked
  refine asked.trans (.of_eq ?_)
  rw [transfersOf, List.map_map]
  apply List.map_congr_left
  intro leg member
  -- What succeeded asks for something.
  obtain ⟨r, among, same⟩ := List.mem_map.mp (demands.mem_iff.mpr (List.mem_map_of_mem member))
  have effect : r.tookEffect = true := by
    have listed : r ∈ successes Store.empty (before ++ events) := by
      rw [grown]
      exact List.mem_append_right _ among
    exact (List.mem_filter.mp listed).2
  obtain ⟨o, asks⟩ : ∃ o, r.demand.operation? = some o := by
    apply Option.ne_none_iff_exists'.mp
    intro none
    simp [Record.tookEffect, Demand.isWrite, none] at effect
  rw [same] at asks
  rw [Function.comp_apply, Function.comp_apply, asks, transfer_asks leg.1 leg.2 (fits leg member) o asks]

end Balances

/-- At as many indices in a row as there are accounts each account gives once and takes once. Transfers of one amount at these
indices leave all balances as they were if they go ahead, wherever the first index is and however they are interleaved. -/
theorem tours_return (ids : List AccountId) (two : 2 ≤ ids.length) (distinct : ids.Nodup) (start : Nat)
    (narrow : start + ids.length < Word.bound) :
    ∃ legs, lap ids start = .ok legs ∧ Tour ids start legs ∧ Returns legs := by
  have tour := lap_tours ids start two distinct narrow
  have round := tour.sources.1.trans tour.destinations.1.symm
  exact ⟨_, lap_turns ids start narrow, tour,
    ⟨round_unchanged _ round, round_among _ round, round_posted _ round⟩⟩

-- A window that goes round the end of the accounts, whose transfers are asked for at once and carried out in another order.
theorem tours_return_wrapped :
    let ids : List AccountId := [7, 4, 9]
    let five : Decimal := .ofWhole 5 (by decide)
    let opens : List Event := ids.map fun id => .ask none (.operation (.createAccount ⟨id, ten⟩))
    let before : List Event := opens ++ [.poll 0, .poll 1, .poll 2]
    let legs : List (AccountId × AccountId) := [(9, 7), (7, 4), (4, 9)]
    let asks : List Event := (transfersOf five legs).map fun t => .ask none t.demand
    let events : List Event := asks ++ [.poll 4, .poll 3, .poll 5]
    2 ≤ ids.length ∧ ids.Nodup ∧ 2 + ids.length < Word.bound ∧ lap ids 2 = .ok legs ∧ Tour ids 2 legs ∧
      Returns legs ∧ (successes Store.empty (before ++ events)).length = 6 ∧
      (books Store.empty (before ++ events)).position.balance = (books Store.empty before).position.balance := by
  intro ids five opens before legs asks events
  have distinct : ids.Nodup := by decide
  have narrow : 2 + ids.length < Word.bound := by decide
  obtain ⟨found, same, tour, returns⟩ := tours_return ids (Nat.le_succ 2) distinct 2 narrow
  have own : lap ids 2 = .ok legs := by decide +kernel
  cases own.symm.trans same
  let asked := fun r : Record => r.demand.operation?
  have opened : (successes Store.empty before).map asked =
      ids.map fun id => some (.createAccount ⟨id, ten⟩) := by decide +kernel
  have moved : (successes Store.empty (before ++ events)).map asked =
      ids.map (fun id => some (.createAccount ⟨id, ten⟩)) ++
        ([⟨7, 4, five⟩, ⟨9, 7, five⟩, ⟨4, 9, five⟩] : List Transfer).map fun t => some (.createTransfer t) := by
    decide +kernel
  obtain ⟨news, grown, _⟩ := History.events_settle Store.empty Book.empty_balanced before events
  have all : news.map asked =
      ([⟨7, 4, five⟩, ⟨9, 7, five⟩, ⟨4, 9, five⟩] : List Transfer).map fun t => some (.createTransfer t) := by
    rw [grown, List.map_append, opened] at moved
    exact List.append_cancel_left moved
  have six : (successes Store.empty (before ++ events)).length = 6 := by
    rw [← List.length_map (f := asked), moved]
    rfl
  refine ⟨Nat.le_succ 2, distinct, narrow, own, tour, returns, six, ?_⟩
  exact returns.unchanged five before events news grown ((List.Perm.of_eq all).trans (.swap _ _ _))

end DoubleEntry.LoadTest
