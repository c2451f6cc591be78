import DoubleEntry.Proofs.LoadTest.Plans
import Mathlib

/-!
Plans that are carried out one after another, and what the books show of it. As many accounts are opened as there are ids
among the plans that are positive and were free; and as many transfers as are created, so many pairs of entries there are,
of which each leaves the sum of all balances as it was.
-/

set_option autoImplicit false

namespace DoubleEntry.LoadTest

open Http (Response Fares)
open Time (Stamp)

abbrev Served := Plan × Response

def Served.isCreated (t : Served) : Bool := t.2.status == 201

/-- Plans whose requests are carried out one after another, each of them alone at some reading of the clock. -/
inductive InTurn : Book → List Served → Book → Prop
  | done (book : Book) : InTurn book [] book
  | next (now : Stamp) (book mid later : Book) (p : Plan) (x : Response) (rest : List Served)
      (solo : ((Demand.request p.request).task none).body.solo now none book = .ok (.response x, mid))
      (others : InTurn mid rest later) : InTurn book ((p, x) :: rest) later

theorem in_turn_append (book mid later : Book) (first second : List Served) (started : InTurn book first mid)
    (ended : InTurn mid second later) : InTurn book (first ++ second) later := by
  induction started with
  | done book => exact ended
  | next now book mid _ p x rest solo _ ih => exact .next now book mid later p x _ solo (ih ended)

theorem in_turn_told (before later : Book) (served : List Served) (turn : InTurn before served later)
    (posted : ∀ t ∈ served, t.1.request.Posted) : ∀ t ∈ served, t.2.status = 201 ∨ 400 ≤ t.2.status ∧ t.2.Uniform := by
  induction turn with
  | done book => exact fun t member => absurd member List.not_mem_nil
  | next now book mid later p x rest solo _ ih =>
      have fares := Http.solo_fares p.request (posted _ List.mem_cons_self) now book x mid solo
      have others := ih fun t member => posted t (List.mem_cons_of_mem _ member)
      exact List.forall_mem_cons.mpr ⟨Http.fares_status now book p.request x mid fares, others⟩

section Openings

def Plan.Opens (p : Plan) (id : AccountId) : Prop := ∃ o, p = openAccount id o

-- The ids among some that can be opened, each once.
def freshIds (book : Book) (ids : List AccountId) : Finset AccountId :=
  ids.toFinset.filter fun id => 1 ≤ id ∧ book.has id = false

variable (book mid : Book) (id : AccountId) (ids : List AccountId)

theorem has_free : book.has id = false ↔ book.account? id = none := by
  rw [Book.has_eq_account, Option.isSome_eq_false_iff, Option.isNone_iff_eq_none]

theorem opening_balance (o : Opening) : 0 ≤ o.balance.value ∧ o.balance.value < 10 ^ 23 := by
  have small : (o.val : ℚ) < 10 ^ 9 := by exact_mod_cast o.isLt
  have value : o.balance.value = o.val / 10 ^ 5 := by simp [Opening.balance, Decimal.value, Decimal.signed]
  rw [value]
  refine ⟨by positivity, ?_⟩
  rw [div_lt_iff₀ (by positivity)]
  exact lt_trans small (by norm_num)

theorem fresh_first (created : Prop) [Decidable created] (decides : created ↔ 1 ≤ id ∧ book.has id = false)
    (known : ∀ other, mid.has other = false ↔ book.has other = false ∧ ¬ (created ∧ other = id)) :
    (freshIds book (id :: ids)).card = (freshIds mid ids).card + if created then 1 else 0 := by
  have kept : ∀ other, other ∈ freshIds mid ids ↔ other ∈ freshIds book ids ∧ ¬ (created ∧ other = id) := by
    intro other
    simp only [freshIds, Finset.mem_filter, known]
    tauto
  by_cases opened : created
  · have new : id ∉ freshIds mid ids := fun member => ((kept id).mp member).2 ⟨opened, rfl⟩
    have all : freshIds book (id :: ids) = insert id (freshIds mid ids) := by
      ext other
      rw [Finset.mem_insert, kept]
      by_cases own : other = id
      · simp [freshIds, own, decides.mp opened]
      · simp [freshIds, own]
    rw [all, Finset.card_insert_of_notMem new, if_pos opened]
  · have all : freshIds book (id :: ids) = freshIds mid ids := by
      ext other
      rw [kept]
      by_cases own : other = id
      · simp [freshIds, own, opened, mt decides.mpr opened]
      · simp [freshIds, own]
    rw [all, if_neg opened, Nat.add_zero]

theorem openings_in_turn (before later : Book) (served : List Served) (ids : List AccountId)
    (turn : InTurn before served later) (balanced : before.Balanced)
    (plans : List.Forall₂ (fun t id => Plan.Opens t.1 id) served ids) (fits : ∀ id ∈ ids, Text.isInt64 id = true) :
    served.countP Served.isCreated = (freshIds before ids).card ∧
      ∀ id, later.has id = true ↔ before.has id = true ∨ id ∈ ids ∧ 1 ≤ id := by
  induction turn generalizing ids with
  | done book =>
      cases plans
      simp [freshIds]
  | next now book mid later p x rest solo _ ih =>
      cases plans with
      | @cons _ id _ ids own others =>
          obtain ⟨o, rfl⟩ := own
          obtain ⟨nonneg, below⟩ := opening_balance o
          have opens := opening_opens id o (fits id List.mem_cons_self)
          obtain ⟨decides, known⟩ := Http.opening_fares now book id o.balance _ opens nonneg below x mid solo
          have fares := Http.solo_fares _ (Http.opens_posted _ _ opens) now book x mid solo
          obtain ⟨count, accounts⟩ := ih ids (Http.fares_balanced now book mid _ x balanced fares) others
            fun other member => fits other (List.mem_cons_of_mem id member)
          simp only [← has_free] at decides known
          refine ⟨?_, fun other => ?_⟩
          · rw [List.countP_cons, count, fresh_first book mid id ids (x.status = 201) decides known]
            simp [Served.isCreated]
          · have opened : mid.has other = true ↔ book.has other = true ∨ 1 ≤ id ∧ other = id := by
              rw [← Bool.not_eq_false, known, decides]
              by_cases own : other = id
              · subst own
                cases book.has other <;> simp
              · simp [own]
            rw [accounts, opened, List.mem_cons]
            by_cases own : other = id
            · subst own
              tauto
            · simp [own]

end Openings

section Transfers

def Plan.Moves (p : Plan) : Prop := ∃ source destination,
  (Text.isInt64 source = true ∧ Text.isInt64 destination = true) ∧ p = makeTransfer source destination

theorem moves_asks (p : Plan) (moves : p.Moves) :
    p.request.Posted ∧ ∀ o, Http.operation? p.request = some o → ∃ t, o = .createTransfer t := by
  obtain ⟨source, destination, fits, rfl⟩ := moves
  have transfers := transfer_transfers source destination fits
  refine ⟨Http.transfers_posted _ _ transfers, fun o asks => ?_⟩
  rw [Http.operation?, transfers.posted, transfers.route] at asks
  obtain ⟨t, _, rfl⟩ := Option.map_eq_some_iff.mp asks
  exact ⟨t, rfl⟩

theorem transfers_in_turn (before later : Book) (served : List Served) (turn : InTurn before served later)
    (balanced : before.Balanced) (plans : ∀ t ∈ served, t.1.Moves) :
    later.worth = before.worth ∧
      ∃ new, later.entries = before.entries ++ new ∧ new.length = 2 * served.countP Served.isCreated := by
  induction turn with
  | done book => exact ⟨rfl, [], (List.append_nil _).symm, rfl⟩
  | next now book mid later p x rest solo _ ih =>
      obtain ⟨posted, asksTransfer⟩ := moves_asks p (plans _ List.mem_cons_self)
      have fares := Http.solo_fares p.request posted now book x mid solo
      obtain ⟨worth, more, entries, count⟩ := ih (Http.fares_balanced now book mid p.request x balanced fares)
        fun t member => plans t (List.mem_cons_of_mem _ member)
      cases fares with
      | created o asks status writes =>
          obtain ⟨t, rfl⟩ := asksTransfer o asks
          obtain ⟨same, new, first, pair⟩ := Ledger.transfer_moves now book mid balanced t writes
          have own : Served.isCreated (p, x) = true := by simp [Served.isCreated, status]
          refine ⟨worth.trans same, new ++ more, ?_, ?_⟩
          · rw [entries, first, List.append_assoc]
          · rw [List.length_append, List.countP_cons, own, if_pos rfl, pair, count]
            ring
      | refused status uniform kept =>
          have own : Served.isCreated (p, x) = false := by
            simp only [Served.isCreated, beq_eq_false_iff_ne]
            omega
          subst kept
          refine ⟨worth, more, entries, ?_⟩
          rw [List.countP_cons, own, count]
          rfl

end Transfers

end DoubleEntry.LoadTest
