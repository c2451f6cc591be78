import DoubleEntry.Proofs.Ledger.Ideal
import DoubleEntry.Proofs.Ledger.Posting

/-!
Transfers that are covered in any order: each account can pay at the start for all that they take from it, and all
that they bring to it would leave it below the limit. Each of them goes ahead and leaves the others covered.
-/

set_option autoImplicit false

namespace DoubleEntry

open Ledger (Operation)

def Transfer.value (t : Transfer) : ℚ := (Amount.round t.amount).value

-- How much of transfers concerns an account on one of their sides.
def share (side : Transfer → AccountId) (transfers : List Transfer) (id : AccountId) : ℚ :=
  (transfers.map fun t => if side t = id then t.value else 0).sum

abbrev outgoing : List Transfer → AccountId → ℚ := share Transfer.source

abbrev incoming : List Transfer → AccountId → ℚ := share Transfer.destination

section Shares

variable (side : Transfer → AccountId) (first second : List Transfer) (t : Transfer) (id : AccountId)

@[simp] theorem share_nil : share side [] id = 0 := rfl

@[simp] theorem share_cons : share side (t :: first) id = (if side t = id then t.value else 0) + share side first id := by
  simp [share]

theorem share_append : share side (first ++ second) id = share side first id + share side second id := by
  simp [share]

theorem share_perm (same : first.Perm second) : share side first = share side second :=
  funext fun _ => (same.map _).sum_eq

theorem share_nonneg (values : ∀ t ∈ first, 0 ≤ t.value) : 0 ≤ share side first id := by
  apply List.sum_nonneg
  intro part among
  obtain ⟨t, member, rfl⟩ := List.mem_map.mp among
  by_cases own : side t = id
  · rw [if_pos own]
    exact values t member
  · rw [if_neg own]

end Shares

namespace Position

/-- The balances that transfers would leave that all go ahead. -/
def settled (p : Position) (transfers : List Transfer) (id : AccountId) : Option ℚ :=
  (p.balance id).map fun q => q - outgoing transfers id + incoming transfers id

structure Covers (p : Position) (transfers : List Transfer) : Prop where
  apart : ∀ t ∈ transfers, t.source ≠ t.destination
  nonneg : ∀ t ∈ transfers, 0 ≤ t.amount.value
  known : ∀ t ∈ transfers, p.balance t.source ≠ none ∧ p.balance t.destination ≠ none
  covered : ∀ id q, p.balance id = some q → outgoing transfers id ≤ q
  roomy : ∀ id q, p.balance id = some q → q + incoming transfers id < 10 ^ 23

theorem covers_perm (p : Position) (first second : List Transfer) (same : first.Perm second)
    (covers : p.Covers first) : p.Covers second := by
  refine ⟨?_, ?_, ?_, ?_, ?_⟩
  · exact fun t member => covers.apart t (same.mem_iff.mpr member)
  · exact fun t member => covers.nonneg t (same.mem_iff.mpr member)
  · exact fun t member => covers.known t (same.mem_iff.mpr member)
  · rw [outgoing, ← share_perm _ first second same]
    exact covers.covered
  · rw [incoming, ← share_perm _ first second same]
    exact covers.roomy

theorem settled_nil (p : Position) : p.settled [] = p.balance := by
  funext id
  simp [settled]

theorem settled_perm (p : Position) (first second : List Transfer) (same : first.Perm second) :
    p.settled first = p.settled second := by
  funext id
  simp only [settled, share_perm _ first second same]

theorem settled_more (p later : Position) (first second : List Transfer) (reached : later.balance = p.settled first) :
    later.settled second = p.settled (first ++ second) := by
  funext id
  simp only [settled, reached, Option.map_map]
  congr 1
  funext q
  simp only [Function.comp_apply, share_append]
  ring

section Covered

variable (p : Position) (t : Transfer) (rest : List Transfer) (covers : p.Covers (t :: rest))

include covers

theorem covers_value : 0 ≤ t.value := Decimal.round_nonneg _ (covers.nonneg t List.mem_cons_self)

theorem covers_later (side : Transfer → AccountId) (id : AccountId) : 0 ≤ share side rest id :=
  share_nonneg side rest id fun other member =>
    Decimal.round_nonneg _ (covers.nonneg other (List.mem_cons_of_mem _ member))

theorem covered_accepted : (Operation.createTransfer t).rejection? = none := by
  have nonneg := covers.nonneg t List.mem_cons_self
  have accepted : t.amount.numLt Decimal.zero = false := by
    apply eq_false_of_ne_true
    intro negative
    have less := (Decimal.num_lt t.amount Decimal.zero).mp negative
    rw [Decimal.value_zero] at less
    exact not_lt.mpr nonneg less
  simp only [Operation.rejection?, accepted, Bool.false_eq_true, if_false, if_neg (covers.apart t List.mem_cons_self)]

theorem covered_done : (p.perform (.createTransfer t)).1 = .done ∧
    (p.perform (.createTransfer t)).2.balance = p.settled [t] := by
  obtain ⟨knownSource, knownDestination⟩ := covers.known t List.mem_cons_self
  obtain ⟨held, ofSource⟩ := Option.ne_none_iff_exists'.mp knownSource
  obtain ⟨other, ofDestination⟩ := Option.ne_none_iff_exists'.mp knownDestination
  have apart := covers.apart t List.mem_cons_self
  have later := covers_later p t rest covers Transfer.source t.source
  have paid := covers.covered t.source held ofSource
  rw [outgoing, share_cons, if_pos rfl] at paid
  have enough : ¬ held < t.value := not_lt.mpr (by linarith)
  have moved : p.transfer t.source t.destination t.value = (.done, (((p.put t.source (held - t.value)).put t.destination
      (other + t.value)).post t.source (-t.value)).post t.destination t.value) := by
    simp only [transfer, ofSource, ofDestination, if_neg enough]
  have performed : p.perform (.createTransfer t) = p.transfer t.source t.destination t.value := by
    simp only [perform, covered_accepted p t rest covers]
    rfl
  rw [performed, moved]
  refine ⟨rfl, funext fun id => ?_⟩
  simp only [post_balance, put_balance, settled, share_cons, share_nil, add_zero]
  by_cases here : id = t.destination
  · rw [here, if_pos rfl, ofDestination, if_neg apart, if_pos rfl]
    simp
  · rw [if_neg here, if_neg (Ne.symm here)]
    by_cases there : id = t.source
    · rw [there, if_pos rfl, if_pos rfl, ofSource]
      simp
    · rw [if_neg there, if_neg (Ne.symm there)]
      simp

theorem covered_rest : (p.perform (.createTransfer t)).2.Covers rest := by
  have balances := (covered_done p t rest covers).2
  have alone : ∀ side id, 0 ≤ share side [t] id := fun side id =>
    share_nonneg side [t] id (List.forall_mem_singleton.mpr (covers_value p t rest covers))
  refine ⟨?_, ?_, ?_, ?_, ?_⟩
  · exact fun other member => covers.apart other (List.mem_cons_of_mem _ member)
  · exact fun other member => covers.nonneg other (List.mem_cons_of_mem _ member)
  · intro other member
    simp only [balances, settled, ne_eq, Option.map_eq_none_iff]
    exact covers.known other (List.mem_cons_of_mem _ member)
  · intro id q known
    rw [balances, settled] at known
    obtain ⟨before, found, rfl⟩ := Option.map_eq_some_iff.mp known
    have paid := covers.covered id before found
    have into := alone Transfer.destination id
    rw [outgoing, ← List.singleton_append, share_append] at paid
    linarith
  · intro id q known
    rw [balances, settled] at known
    obtain ⟨before, found, rfl⟩ := Option.map_eq_some_iff.mp known
    have room := covers.roomy id before found
    have out := alone Transfer.source id
    rw [incoming, ← List.singleton_append, share_append] at room
    linarith

theorem covered_within_limit : p.WithinLimit (.createTransfer t) := by
  refine ⟨?_, ?_⟩
  · intro d same
    cases same
    obtain ⟨other, ofDestination⟩ := Option.ne_none_iff_exists'.mp (covers.known t List.mem_cons_self).2
    have out := covers_later p t rest covers Transfer.source t.destination
    have into := covers_later p t rest covers Transfer.destination t.destination
    have paid := covers.covered t.destination other ofDestination
    have room := covers.roomy t.destination other ofDestination
    rw [outgoing, share_cons, if_neg (covers.apart t List.mem_cons_self)] at paid
    rw [incoming, share_cons, if_pos rfl] at room
    change t.value < 10 ^ 23
    linarith
  · intro id q known
    have room := (covered_rest p t rest covers).roomy id q known
    have into := covers_later p t rest covers Transfer.destination id
    linarith

end Covered
end Position
end DoubleEntry
