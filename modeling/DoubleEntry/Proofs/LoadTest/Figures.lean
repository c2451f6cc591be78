import DoubleEntry.LoadTest.Report
import DoubleEntry.Proofs.Text.Digits
import Mathlib

/-!
What figures say. Of outcomes in whatever order, each endpoint has its figures once; all of them together count all outcomes,
those of an endpoint count its own by their status, and its average and its percentiles lie between its extremes.
-/

set_option autoImplicit false

namespace DoubleEntry.LoadTest

open Time (Span)

section Distinct

variable (keys : List String)

theorem erase_reps_pair (a b : String) :
    (a :: b :: keys).eraseReps = if a = b then (b :: keys).eraseReps else a :: (b :: keys).eraseReps := by
  have moved : ∀ (l : List String) (a : String) (acc : List String),
      List.eraseRepsBy.loop (· == ·) a l acc = acc.reverse ++ List.eraseRepsBy.loop (· == ·) a l [] := by
    intro l
    induction l with
    | nil => intro a acc; simp [List.eraseRepsBy.loop]
    | cons b l ih =>
        intro a acc
        rw [List.eraseRepsBy.loop, List.eraseRepsBy.loop]
        cases a == b with
        | true => exact ih a acc
        | false =>
            simp only
            rw [ih b (a :: acc), ih b [a]]
            simp
  rw [List.eraseReps, List.eraseRepsBy, List.eraseRepsBy.loop]
  by_cases same : a = b
  · subst same
    simp only [beq_self_eq_true, if_true]
    rfl
  · rw [beq_eq_false_iff_ne.mpr same, if_neg same]
    simp only
    rw [moved]
    rfl

theorem erase_reps_mem (key : String) : key ∈ keys.eraseReps ↔ key ∈ keys := by
  induction keys with
  | nil => rfl
  | cons a rest ih =>
      cases rest with
      | nil => rfl
      | cons b rest =>
          rw [erase_reps_pair]
          by_cases same : a = b
          · rw [if_pos same, ih, same]
            simp
          · rw [if_neg same, List.mem_cons, ih, List.mem_cons (a := key) (b := a)]

theorem erase_reps_ascending (sorted : keys.Pairwise (· ≤ ·)) : keys.eraseReps.Pairwise (· < ·) := by
  induction keys with
  | nil => exact .nil
  | cons a rest ih =>
      cases rest with
      | nil => exact List.pairwise_singleton _ _
      | cons b rest =>
          obtain ⟨least, sorted⟩ := List.pairwise_cons.mp sorted
          rw [erase_reps_pair]
          by_cases same : a = b
          · rw [if_pos same]
            exact ih sorted
          · rw [if_neg same]
            refine List.pairwise_cons.mpr ⟨?_, ih sorted⟩
            intro key member
            have first := lt_of_le_of_ne (least b List.mem_cons_self) same
            rcases List.mem_cons.mp ((erase_reps_mem _ key).mp member) with rfl | later
            · exact first
            · exact lt_of_lt_of_le first ((List.pairwise_cons.mp sorted).1 key later)

theorem sorted_keys : (keys.mergeSort fun a b => decide (a ≤ b)).Pairwise (· ≤ ·) := by
  have sorted := @List.pairwise_mergeSort _ (fun a b : String => decide (a ≤ b))
    (fun a b c first second => decide_eq_true (le_trans (of_decide_eq_true first) (of_decide_eq_true second)))
    (fun a b => by simpa using le_total a b) keys
  exact sorted.imp fun le => of_decide_eq_true le

theorem distinct_ascending : (distinctAscending keys).Pairwise (· < ·) :=
  erase_reps_ascending _ (sorted_keys keys)

theorem distinct_mem (key : String) : key ∈ distinctAscending keys ↔ key ∈ keys := by
  rw [distinctAscending, erase_reps_mem, List.mem_mergeSort]

theorem distinct_nodup : (distinctAscending keys).Nodup :=
  (distinct_ascending keys).imp fun less => ne_of_lt less

theorem distinct_perm (others : List String) (perm : keys.Perm others) :
    distinctAscending keys = distinctAscending others := by
  refine List.Perm.eq_of_pairwise (fun a b _ _ less more => absurd more (lt_asymm less)) (distinct_ascending keys)
    (distinct_ascending others) ?_
  refine (List.perm_ext_iff_of_nodup (distinct_nodup keys) (distinct_nodup others)).mpr fun key => ?_
  rw [distinct_mem, distinct_mem, perm.mem_iff]

theorem counts_sum (own : List String) (within : ∀ key ∈ own, key ∈ keys) :
    ((distinctAscending keys).map fun key => own.count key).sum = own.length := by
  rw [← List.sum_toFinset _ (distinct_nodup keys)]
  have whole := Multiset.sum_count_eq_card (s := (distinctAscending keys).toFinset) (m := (own : Multiset String))
    fun key member => List.mem_toFinset.mpr ((distinct_mem keys key).mpr (within key (Multiset.mem_coe.mp member)))
  simpa using whole

end Distinct

section Latencies

variable (latencies : List Span)

theorem ascending_perm : (ascending latencies).Perm latencies := List.mergeSort_perm _ _

theorem ascending_sorted : (ascending latencies).Pairwise fun a b => a.nanos ≤ b.nanos := by
  have sorted := @List.pairwise_mergeSort _ (fun a b : Span => decide (a.nanos ≤ b.nanos))
    (fun a b c first second => decide_eq_true (le_trans (of_decide_eq_true first) (of_decide_eq_true second)))
    (fun a b => by simpa using le_total a.nanos b.nanos) latencies
  exact sorted.imp fun le => of_decide_eq_true le

theorem ascending_same (others : List Span) (perm : latencies.Perm others) : ascending latencies = ascending others := by
  refine List.Perm.eq_of_pairwise ?_ (ascending_sorted latencies) (ascending_sorted others) ?_
  · rintro ⟨a⟩ ⟨b⟩ _ _ le ge
    exact congrArg Span.mk (le_antisymm le ge)
  · exact (ascending_perm latencies).trans (perm.trans (ascending_perm others).symm)

theorem total_sum : totalNanos latencies = (latencies.map Span.nanos).sum := by
  rw [totalNanos, List.sum_eq_foldr, List.foldr_map]

theorem ordered_places (sorted : latencies.Pairwise fun a b => a.nanos ≤ b.nanos) (i j : Nat) (le : i ≤ j)
    (within : j < latencies.length) : (latencies.getD i Span.zero).nanos ≤ (latencies.getD j Span.zero).nanos := by
  rw [List.getD_eq_getElem _ _ (Nat.lt_of_le_of_lt le within), List.getD_eq_getElem _ _ within]
  rcases Nat.eq_or_lt_of_le le with rfl | less
  · exact le_refl _
  · exact List.pairwise_iff_getElem.mp sorted i j _ within less

theorem rank_last (count p : Nat) : rankAt count p ≤ count - 1 := Nat.min_le_right _ _

theorem rank_rises (count p q : Nat) (le : p ≤ q) : rankAt count p ≤ rankAt count q :=
  min_le_min_right (count - 1) (Nat.div_le_div_right (Nat.mul_le_mul_left count le))

end Latencies

def keyOf : Option Nat → String
  | some status => toString status
  | none => "error"

theorem status_key (o : Outcome) : statusKey o = keyOf o.status := by
  rw [statusKey]
  cases o.status <;> rfl

theorem key_injective (first second : Option Nat) (same : keyOf first = keyOf second) : first = second := by
  have number : ∀ n : Nat, toString n ≠ "error" := by
    intro n same
    have digits : ('e').isDigit = true := by
      refine Text.digits_digit n 'e' ?_
      have shown : (toString n).toList = Text.digits n := Nat.toList_repr
      rw [← shown, same]
      decide
    cases digits
  cases first with
  | none =>
      cases second with
      | none => rfl
      | some n => exact absurd same.symm (number n)
  | some m =>
      cases second with
      | none => exact absurd same (number m)
      | some n => exact congrArg some (Nat.repr_inj.mp same)

structure Faithful (f : Figures) (own : List Outcome) : Prop where
  count : f.count = own.length
  successes : f.successes = own.countP Outcome.success
  keys : (f.statuses.map Prod.fst).Pairwise (· < ·)
  statuses : ∀ key n, (key, n) ∈ f.statuses ↔ ∃ status, key = keyOf status ∧ 0 < n ∧
    n = own.countP fun o => o.status == status
  histogram : (f.statuses.map Prod.snd).sum = f.count
  least : (∃ o ∈ own, o.latency = f.min) ∧ ∀ o ∈ own, f.min.nanos ≤ o.latency.nanos
  greatest : (∃ o ∈ own, o.latency = f.max) ∧ ∀ o ∈ own, o.latency.nanos ≤ f.max.nanos
  floor : f.avg.nanos = (own.map fun o => o.latency.nanos).sum / f.count
  between : f.min.nanos ≤ f.avg.nanos ∧ f.avg.nanos ≤ f.max.nanos
  percentiles : f.min.nanos ≤ f.p50.nanos ∧ f.p50.nanos ≤ f.p95.nanos ∧ f.p95.nanos ≤ f.p99.nanos ∧
    f.p99.nanos ≤ f.max.nanos

section Endpoint

variable (endpoint : String) (own : List Outcome)

theorem statuses_counted (key : String) (n : Nat) : (key, n) ∈ (figures endpoint own).statuses ↔
    ∃ status, key = keyOf status ∧ 0 < n ∧ n = own.countP fun o => o.status == status := by
  have counted : ∀ status, (own.map statusKey).count (keyOf status) = own.countP fun o => o.status == status := by
    intro status
    rw [List.count, List.countP_map]
    refine List.countP_congr fun o _ => ?_
    simp only [Function.comp_apply, beq_iff_eq, status_key]
    exact ⟨key_injective o.status status, congrArg keyOf⟩
  have listed : (key, n) ∈ (figures endpoint own).statuses ↔
      key ∈ own.map statusKey ∧ (own.map statusKey).count key = n := by
    simp only [figures, histogram, List.mem_map, distinct_mem, Prod.mk.injEq]
    constructor
    · rintro ⟨_, member, rfl, rfl⟩
      exact ⟨member, rfl⟩
    · rintro ⟨member, rfl⟩
      exact ⟨key, member, rfl, rfl⟩
  rw [listed]
  constructor
  · rintro ⟨member, rfl⟩
    obtain ⟨o, among, rfl⟩ := List.mem_map.mp member
    exact ⟨o.status, status_key o, List.count_pos_iff.mpr member, by rw [status_key, counted]⟩
  · rintro ⟨status, rfl, positive, rfl⟩
    rw [← counted] at positive ⊢
    exact ⟨List.count_pos_iff.mp positive, rfl⟩

theorem histogram_keys (keys : List String) : (histogram keys).map Prod.fst = distinctAscending keys := by
  rw [histogram, List.map_map]
  exact List.map_id _

theorem histogram_whole : ((figures endpoint own).statuses.map Prod.snd).sum = own.length := by
  have whole := counts_sum (own.map statusKey) (own.map statusKey) fun _ member => member
  rw [List.length_map] at whole
  simpa only [figures, histogram, List.map_map, Function.comp_def] using whole

def place (i : Nat) : Span := (ascending (own.map Outcome.latency)).getD i Span.zero

section Measured

variable (measured : 0 < own.length)

theorem places : (ascending (own.map Outcome.latency)).length = own.length := by
  rw [(ascending_perm _).length_eq, List.length_map]

theorem place_rises (i j : Nat) (le : i ≤ j) (within : j < own.length) : (place own i).nanos ≤ (place own j).nanos :=
  ordered_places _ (ascending_sorted _) i j le (by rw [places]; exact within)

theorem place_taken (i : Nat) (within : i < own.length) : ∃ o ∈ own, o.latency = place own i := by
  have inside : i < (ascending (own.map Outcome.latency)).length := by
    rw [places]
    exact within
  have member := (ascending_perm _).mem_iff.mp (List.getElem_mem inside)
  rw [place, List.getD_eq_getElem _ _ inside]
  exact List.mem_map.mp member

theorem placed (o : Outcome) (member : o ∈ own) : ∃ i, i < own.length ∧ o.latency = place own i := by
  have among := (ascending_perm _).mem_iff.mpr (List.mem_map_of_mem (f := Outcome.latency) member)
  obtain ⟨i, inside, found⟩ := List.mem_iff_getElem.mp among
  refine ⟨i, ?_, ?_⟩
  · rw [← places own]
    exact inside
  · rw [place, List.getD_eq_getElem _ _ inside, found]

theorem min_place : (figures endpoint own).min = place own 0 := by
  rw [figures, place, List.headD_eq_head?, List.head?_eq_getElem?, List.getD_eq_getElem?_getD]

theorem max_place : (figures endpoint own).max = place own (own.length - 1) := by
  rw [figures, place, List.getLastD_eq_getLast?, List.getLast?_eq_getElem?, List.getD_eq_getElem?_getD, places]

theorem percentile_place (p : Nat) :
    percentileOf (ascending (own.map Outcome.latency)) p = place own (rankAt own.length p) := by
  rw [percentileOf, places, place]

include measured

theorem least_first : (∃ o ∈ own, o.latency = place own 0) ∧ ∀ o ∈ own, (place own 0).nanos ≤ o.latency.nanos := by
  refine ⟨place_taken own 0 measured, fun o member => ?_⟩
  obtain ⟨i, within, found⟩ := placed own o member
  rw [found]
  exact place_rises own 0 i (Nat.zero_le i) within

theorem greatest_last : (∃ o ∈ own, o.latency = place own (own.length - 1)) ∧
    ∀ o ∈ own, o.latency.nanos ≤ (place own (own.length - 1)).nanos := by
  refine ⟨place_taken own _ (by omega), fun o member => ?_⟩
  obtain ⟨i, within, found⟩ := placed own o member
  rw [found]
  exact place_rises own i _ (by omega) (by omega)

theorem rank_place (p q : Nat) (le : p ≤ q) :
    (place own 0).nanos ≤ (place own (rankAt own.length p)).nanos ∧
    (place own (rankAt own.length p)).nanos ≤ (place own (rankAt own.length q)).nanos ∧
    (place own (rankAt own.length q)).nanos ≤ (place own (own.length - 1)).nanos := by
  have last := rank_last own.length
  have before := last p
  have after := last q
  refine ⟨place_rises own _ _ (Nat.zero_le _) (by omega), ?_, place_rises own _ _ after (by omega)⟩
  exact place_rises own _ _ (rank_rises own.length p q le) (by omega)

theorem mean_between : (place own 0).nanos ≤ (own.map fun o => o.latency.nanos).sum / own.length ∧
    (own.map fun o => o.latency.nanos).sum / own.length ≤ (place own (own.length - 1)).nanos := by
  have below := List.card_nsmul_le_sum (own.map fun o => o.latency.nanos) (place own 0).nanos (by
    simpa using (least_first own measured).2)
  have above := List.sum_le_card_nsmul (own.map fun o => o.latency.nanos) (place own (own.length - 1)).nanos (by
    simpa using (greatest_last own measured).2)
  rw [List.length_map, smul_eq_mul] at below above
  refine ⟨(Nat.le_div_iff_mul_le measured).mpr ?_, Nat.div_le_of_le_mul above⟩
  rw [Nat.mul_comm]
  exact below

theorem endpoint_faithful (few : own.length < 2 ^ 32) : Faithful (figures endpoint own) own := by
  have divides : divisor own.length = own.length := by
    change min (max own.length 1) (2 ^ 32 - 1) = own.length
    omega
  have floor : (figures endpoint own).avg.nanos = (own.map fun o => o.latency.nanos).sum / own.length := by
    change totalNanos (ascending (own.map Outcome.latency)) / divisor own.length = _
    rw [divides, total_sum, ((ascending_perm _).map Span.nanos).sum_eq, List.map_map]
    rfl
  obtain ⟨first, early, -⟩ := rank_place own measured 50 95 (by decide)
  obtain ⟨-, late, last⟩ := rank_place own measured 95 99 (by decide)
  constructor
  · rfl
  · rfl
  · rw [figures, histogram_keys]
    exact distinct_ascending _
  · exact statuses_counted endpoint own
  · exact histogram_whole endpoint own
  · rw [min_place]
    exact least_first own measured
  · rw [max_place]
    exact greatest_last own measured
  · exact floor
  · rw [min_place, max_place, floor]
    exact mean_between own measured
  · rw [min_place, max_place, figures]
    simp only [percentile_place]
    exact ⟨first, early, late, last⟩

end Measured

theorem figures_same (others : List Outcome) (perm : own.Perm others) : figures endpoint own = figures endpoint others := by
  have latencies := ascending_same _ _ (perm.map Outcome.latency)
  have statuses : histogram (own.map statusKey) = histogram (others.map statusKey) := by
    have keys := perm.map statusKey
    rw [histogram, histogram, distinct_perm _ _ keys]
    exact List.map_congr_left fun key _ => congrArg (Prod.mk key) (keys.count_eq key)
  rw [figures, figures, latencies, statuses, perm.length_eq, perm.countP_eq]

end Endpoint

section Whole

variable (outcomes : List Outcome)

/-- No endpoint has more outcomes than half a word counts, nor latencies that sum to more than a time. -/
structure WithinCounts : Prop where
  few : ∀ endpoint, (ofEndpoint outcomes endpoint).length < 2 ^ 32
  short : ∀ endpoint, ((ofEndpoint outcomes endpoint).map fun o => o.latency.nanos).sum < Span.bound

structure Aggregates (all : List Figures) : Prop where
  ascending : (all.map Figures.endpoint).Pairwise (· < ·)
  endpoints : ∀ endpoint, endpoint ∈ all.map Figures.endpoint ↔ ∃ o ∈ outcomes, o.endpoint = endpoint
  faithful : ∀ f ∈ all, Faithful f (ofEndpoint outcomes f.endpoint)
  count : (all.map Figures.count).sum = outcomes.length
  successes : (all.map Figures.successes).sum = outcomes.countP Outcome.success
  shown : ∀ elapsed, s!"Total Requests: {(all.map Figures.count).sum}" ∈ overallLines outcomes elapsed ∧
    s!"Successful Requests: {(all.map Figures.successes).sum}" ∈ overallLines outcomes elapsed

theorem endpoint_mem (endpoint : String) : endpoint ∈ endpoints outcomes ↔ ∃ o ∈ outcomes, o.endpoint = endpoint := by
  rw [endpoints, distinct_mem, List.mem_map]

theorem summarized_endpoints : (summarize outcomes).map Figures.endpoint = endpoints outcomes := by
  rw [summarize, List.map_map]
  exact List.map_id _

theorem parts_sum (p : Outcome → Bool) :
    ((endpoints outcomes).map fun endpoint => (ofEndpoint outcomes endpoint).countP p).sum = outcomes.countP p := by
  have whole := counts_sum (outcomes.map Outcome.endpoint) ((outcomes.filter p).map Outcome.endpoint) (by
    intro key member
    obtain ⟨o, among, rfl⟩ := List.mem_map.mp member
    exact List.mem_map_of_mem (List.mem_of_mem_filter among))
  rw [List.length_map, ← List.countP_eq_length_filter] at whole
  rw [← whole]
  refine congrArg List.sum (List.map_congr_left fun endpoint _ => ?_)
  rw [List.count, List.countP_map, List.countP_filter, ofEndpoint, List.countP_filter]
  refine List.countP_congr fun o _ => ?_
  simp [and_comm]

theorem tally_ok (endpoint : String) (own : List Outcome) (few : own.length < 2 ^ 32)
    (short : (own.map fun o => o.latency.nanos).sum < Span.bound) : tally endpoint own = .ok (figures endpoint own) := by
  have total : sum (ascending (own.map Outcome.latency)) = .ok ⟨totalNanos (ascending (own.map Outcome.latency))⟩ := by
    rw [sum, if_pos]
    rw [total_sum, ((ascending_perm _).map Span.nanos).sum_eq, List.map_map]
    exact short
  have places := (ascending_perm (own.map Outcome.latency)).length_eq
  rw [List.length_map] at places
  have ranked : ∀ p ∈ [50, 95, 99], percentile (ascending (own.map Outcome.latency)) p =
      .ok (percentileOf (ascending (own.map Outcome.latency)) p) := by
    intro p member
    have le : p ≤ 99 := by
      simp only [List.mem_cons, List.not_mem_nil, or_false] at member
      omega
    have product : own.length * p < Word.bound :=
      Nat.lt_of_le_of_lt (Nat.mul_le_mul (Nat.le_of_lt few) le) (by decide : 2 ^ 32 * 99 < 2 ^ 64)
    rw [percentile]
    cases found : ascending (own.map Outcome.latency) with
    | nil => rfl
    | cons first rest =>
        rw [found] at places
        simp only [List.isEmpty_cons, Bool.false_eq_true, if_false, places, Word.mul, if_pos product, Except.map]
  simp only [tally, total, all_done _ _ _ ranked, bind, Except.bind, pure, Except.pure]

theorem summary_ok (fits : WithinCounts outcomes) : summary outcomes = .ok (summarize outcomes) :=
  all_done _ _ _ fun endpoint _ => tally_ok endpoint _ (fits.few endpoint) (fits.short endpoint)

theorem whole_within_counts (few : outcomes.length < 2 ^ 32) (short : (outcomes.map fun o => o.latency.nanos).sum < Span.bound) :
    WithinCounts outcomes :=
  ⟨fun _ => Nat.lt_of_le_of_lt (List.length_filter_le _ _) few,
    fun _ => Nat.lt_of_le_of_lt ((List.filter_sublist.map _).sum_le_sum fun _ _ => Nat.zero_le _) short⟩

variable (others : List Outcome) (perm : outcomes.Perm others)

include perm

theorem endpoints_same : endpoints outcomes = endpoints others := distinct_perm _ _ (perm.map Outcome.endpoint)

theorem summary_same : summary outcomes = summary others := by
  rw [summary, summary, endpoints_same outcomes others perm]
  congr 1
  funext endpoint
  have own := perm.filter fun o => o.endpoint == endpoint
  have latencies := ascending_same _ _ (own.map Outcome.latency)
  have figures := figures_same endpoint _ _ own
  simp only [tally, ofEndpoint, latencies, figures]

end Whole

/-- The figures of a load test count each of its outcomes once, wherever it stands among the others. -/
theorem figures_are_faithful (outcomes : List Outcome) (fits : WithinCounts outcomes) :
    ∃ all, summary outcomes = .ok all ∧ Aggregates outcomes all ∧
      ∀ others, outcomes.Perm others → summary others = .ok all := by
  have count : ((summarize outcomes).map Figures.count).sum = outcomes.length := by
    have parts := parts_sum outcomes fun _ => true
    simp only [List.countP_true] at parts
    rw [← parts, summarize, List.map_map]
    rfl
  have successes : ((summarize outcomes).map Figures.successes).sum = outcomes.countP Outcome.success := by
    rw [← parts_sum, summarize, List.map_map]
    rfl
  refine ⟨summarize outcomes, summary_ok outcomes fits, ⟨?_, ?_, ?_, count, successes, ?_⟩, ?_⟩
  · rw [summarized_endpoints]
    exact distinct_ascending _
  · rw [summarized_endpoints]
    exact endpoint_mem outcomes
  · intro f member
    obtain ⟨endpoint, listed, rfl⟩ := List.mem_map.mp member
    obtain ⟨o, among, rfl⟩ := (endpoint_mem outcomes endpoint).mp listed
    have own : o ∈ ofEndpoint outcomes o.endpoint := List.mem_filter.mpr ⟨among, beq_self_eq_true _⟩
    exact endpoint_faithful o.endpoint _ (List.length_pos_of_mem own) (fits.few o.endpoint)
  · intro elapsed
    rw [count, successes]
    exact ⟨List.mem_of_getElem? (i := 3) rfl, List.mem_of_getElem? (i := 4) rfl⟩
  · intro others perm
    rw [← summary_same outcomes others perm]
    exact summary_ok outcomes fits

-- Openings and transfers in turn: one of them was refused, one was never answered, and two took equally long.
def mixed : List Outcome :=
  [⟨"/transactions", .ofMillis 30, some 201, true, none⟩, ⟨"/accounts", .ofMillis 10, some 201, true, none⟩,
   ⟨"/transactions", .ofMillis 10, some 409, false, some "INSUFFICIENT_FUNDS"⟩,
   ⟨"/accounts", .ofMillis 10, some 201, true, none⟩,
   ⟨"/transactions", .ofMillis 20, none, false, some "connection closed"⟩]

theorem figures_are_faithful_mixed : WithinCounts mixed ∧ ∃ all, summary mixed = .ok all ∧ Aggregates mixed all ∧
    ∀ others, mixed.Perm others → summary others = .ok all := by
  have fits : WithinCounts mixed := whole_within_counts mixed (by decide) (by decide)
  exact ⟨fits, figures_are_faithful mixed fits⟩

end DoubleEntry.LoadTest
