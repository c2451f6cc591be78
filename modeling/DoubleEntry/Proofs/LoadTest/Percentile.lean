import DoubleEntry.Proofs.LoadTest.Figures

/-!
Percentiles as order statistics. What stands at a place in ascending order has no more below it than stand before it, and more
that are not above it; and the place of a percentile is its share of the whole, cut off, but never behind the last one.
-/

set_option autoImplicit false

namespace DoubleEntry.LoadTest

open Time (Span)

def below (latencies : List Span) (x : Span) : Nat := latencies.countP fun y => decide (y.nanos < x.nanos)

def within (latencies : List Span) (x : Span) : Nat := latencies.countP fun y => decide (y.nanos ≤ x.nanos)

section Ranks

variable (count p : Nat)

theorem rank_inside (some : 0 < count) : rankAt count p < count := by
  have last := rank_last count p
  omega

theorem rank_share : 100 * rankAt count p ≤ p * count := by
  have share : rankAt count p ≤ count * p / 100 := Nat.min_le_left _ _
  calc
    100 * rankAt count p ≤ 100 * (count * p / 100) := Nat.mul_le_mul_left 100 share
    _ ≤ count * p := Nat.mul_div_le _ _
    _ = p * count := Nat.mul_comm _ _

theorem share_rank (some : 0 < count) (low : p < 100) : p * count < 100 * (rankAt count p + 1) := by
  have less : count * p < count * 100 := Nat.mul_lt_mul_of_pos_left low some
  have short : count * p / 100 ≤ count - 1 := by omega
  have share : rankAt count p = count * p / 100 := Nat.min_eq_left short
  rw [share, Nat.mul_comm p count]
  exact Nat.lt_mul_div_succ _ (by decide)

theorem rank_high (high : 100 ≤ p) : rankAt count p = count - 1 := by
  have more : count * 100 ≤ count * p := Nat.mul_le_mul_left count high
  exact Nat.min_eq_right (by omega)

end Ranks

section Places

variable (latencies : List Span) (sorted : latencies.Pairwise fun a b => a.nanos ≤ b.nanos)

include sorted

theorem place_le (i j : Nat) (le : i ≤ j) (inside : j < latencies.length) :
    latencies[i].nanos ≤ latencies[j].nanos := by
  have ordered := ordered_places latencies sorted i j le inside
  rwa [List.getD_eq_getElem _ _ (Nat.lt_of_le_of_lt le inside), List.getD_eq_getElem _ _ inside] at ordered

variable (i : Nat) (inside : i < latencies.length)

theorem below_place : below latencies latencies[i] ≤ i := by
  have none : (latencies.drop i).countP (fun y => decide (y.nanos < latencies[i].nanos)) = 0 := by
    refine List.countP_eq_zero.mpr fun y member => ?_
    obtain ⟨j, beyond, rfl⟩ := List.getElem_of_mem member
    rw [List.length_drop] at beyond
    have later := place_le latencies sorted i (i + j) (Nat.le_add_right i j) (by omega)
    rw [List.getElem_drop, decide_eq_true_eq]
    exact not_lt.mpr later
  calc
    below latencies latencies[i] = (latencies.take i).countP _ + (latencies.drop i).countP _ := by
      rw [← List.countP_append, List.take_append_drop, below]
    _ = (latencies.take i).countP _ := by rw [none, Nat.add_zero]
    _ ≤ (latencies.take i).length := List.countP_le_length
    _ ≤ i := List.length_take_le i latencies

theorem place_within : i < within latencies latencies[i] := by
  have all : (latencies.take (i + 1)).countP (fun y => decide (y.nanos ≤ latencies[i].nanos)) =
      (latencies.take (i + 1)).length := by
    refine List.countP_eq_length.mpr fun y member => ?_
    obtain ⟨j, before, rfl⟩ := List.getElem_of_mem member
    rw [List.length_take] at before
    rw [List.getElem_take, decide_eq_true_eq]
    exact place_le latencies sorted j i (by omega) inside
  calc
    i < (latencies.take (i + 1)).length := by
      rw [List.length_take]
      omega
    _ = (latencies.take (i + 1)).countP _ := all.symm
    _ ≤ within latencies latencies[i] := (List.take_sublist _ _).countP_le

end Places

structure OrderStatistic (latencies : List Span) (p : Nat) (x : Span) : Prop where
  placed : ∃ inside : rankAt latencies.length p < latencies.length, x = latencies[rankAt latencies.length p]
  member : x ∈ latencies
  below : 100 * below latencies x ≤ p * latencies.length
  within : p < 100 → p * latencies.length < 100 * within latencies x
  greatest : 100 ≤ p → ∀ y ∈ latencies, y.nanos ≤ x.nanos

section Percentiles

variable (latencies : List Span) (some : latencies ≠ []) (p : Nat)

include some

theorem percentile_placed (narrow : latencies.length * p < Word.bound) :
    ∃ inside : rankAt latencies.length p < latencies.length,
      percentile latencies p = .ok latencies[rankAt latencies.length p] := by
  have inside := rank_inside latencies.length p (List.length_pos_of_ne_nil some)
  refine ⟨inside, ?_⟩
  rw [percentile, if_neg (by simpa using some), Word.mul, if_pos narrow, percentileOf, List.getD_eq_getElem _ _ inside]
  rfl

theorem place_statistic (sorted : latencies.Pairwise fun a b => a.nanos ≤ b.nanos)
    (inside : rankAt latencies.length p < latencies.length) :
    OrderStatistic latencies p latencies[rankAt latencies.length p] := by
  have positive := List.length_pos_of_ne_nil some
  refine ⟨⟨inside, rfl⟩, List.getElem_mem inside, ?_, ?_, ?_⟩
  · have before := below_place latencies sorted _ inside
    exact Nat.le_trans (Nat.mul_le_mul_left 100 before) (rank_share latencies.length p)
  · intro low
    have after := place_within latencies sorted _ inside
    exact Nat.lt_of_lt_of_le (share_rank latencies.length p positive low) (Nat.mul_le_mul_left 100 after)
  · intro high y member
    obtain ⟨j, among, rfl⟩ := List.getElem_of_mem member
    have last := rank_high latencies.length p high
    exact place_le latencies sorted j _ (by omega) inside

end Percentiles

/-- A percentile of latencies in ascending order is one of them: at most its share of them are below it, and more are not
above it. A greater share has no smaller percentile. -/
theorem percentiles_are_order_statistics (latencies : List Span) (some : latencies ≠ [])
    (sorted : latencies.Pairwise fun a b => a.nanos ≤ b.nanos) (p : Nat) (narrow : latencies.length * p < Word.bound) :
    ∃ x, percentile latencies p = .ok x ∧ OrderStatistic latencies p x ∧
      ∀ q ≤ p, ∃ y, percentile latencies q = .ok y ∧ y.nanos ≤ x.nanos := by
  obtain ⟨inside, found⟩ := percentile_placed latencies some p narrow
  refine ⟨_, found, place_statistic latencies some p sorted inside, ?_⟩
  intro q le
  obtain ⟨earlier, foundEarlier⟩ :=
    percentile_placed latencies some q (Nat.lt_of_le_of_lt (Nat.mul_le_mul_left _ le) narrow)
  exact ⟨_, foundEarlier, place_le latencies sorted _ _ (rank_rises latencies.length q p le) inside⟩

-- Equal latencies, and a share that is whole: the half of four are two, and two are less than what is found there.
theorem percentiles_are_order_statistics_halved :
    let latencies : List Span := [.ofMillis 1, .ofMillis 1, .ofMillis 2, .ofMillis 2]
    latencies ≠ [] ∧ (latencies.Pairwise fun a b => a.nanos ≤ b.nanos) ∧ latencies.length * 50 < Word.bound ∧
      ∃ x, percentile latencies 50 = .ok x ∧ OrderStatistic latencies 50 x ∧
        ∀ q ≤ 50, ∃ y, percentile latencies q = .ok y ∧ y.nanos ≤ x.nanos := by
  intro latencies
  have some : latencies ≠ [] := List.cons_ne_nil _ _
  have sorted : latencies.Pairwise fun a b => a.nanos ≤ b.nanos := by decide
  have narrow : latencies.length * 50 < Word.bound := by decide
  exact ⟨some, sorted, narrow, percentiles_are_order_statistics latencies some sorted 50 narrow⟩

end DoubleEntry.LoadTest
