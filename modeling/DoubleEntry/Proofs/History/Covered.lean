import DoubleEntry.Proofs.History.Alone
import DoubleEntry.Proofs.History.Books
import DoubleEntry.Proofs.History.Progress
import DoubleEntry.Proofs.Ledger.Covered

/-!
Transfers that are covered can come in any order. Executed one after another in any order, or side by side in any calm
history, they all go ahead and lead to the same balances.
-/

set_option autoImplicit false

namespace DoubleEntry

open Ledger (Operation Outcome)
open Session (Answer)
open Time (Stamp)

def Transfer.demand (t : Transfer) : Demand := .operation (.createTransfer t)

def wentAhead : Answer := .outcome (.transfer (.ok ()))

-- What transfers make of books that all went ahead.
structure Settled (before later : Book) (transfers : List Transfer) : Prop where
  balances : later.position.balance = before.position.settled transfers
  entries : ∃ new, later.entries = before.entries ++ new ∧ new.length = 2 * transfers.length

theorem settled_none (b : Book) : Settled b b [] :=
  ⟨(Position.settled_nil _).symm, [], (List.append_nil _).symm, rfl⟩

theorem settled_trans (b mid later : Book) (first second : List Transfer) (started : Settled b mid first)
    (ended : Settled mid later second) : Settled b later (first ++ second) := by
  obtain ⟨new, entries, count⟩ := started.entries
  obtain ⟨more, further, countMore⟩ := ended.entries
  refine ⟨?_, new ++ more, ?_, ?_⟩
  · rw [ended.balances]
    exact Position.settled_more _ _ first second started.balances
  · rw [further, entries, List.append_assoc]
  · rw [List.length_append, List.length_append, count, countMore, Nat.mul_add]

theorem settled_any_order (b later : Book) (first second : List Transfer) (same : first.Perm second)
    (settled : Settled b later first) : Settled b later second := by
  obtain ⟨new, entries, count⟩ := settled.entries
  refine ⟨?_, new, entries, ?_⟩
  · rw [settled.balances, Position.settled_perm _ first second same]
  · rw [count, same.length_eq]

theorem done_outcome (outcome : Outcome) (done : outcome.gist = .done) : outcome = .transfer (.ok ()) := by
  cases outcome with
  | transfer r =>
      cases r with
      | ok value => rfl
      | error e => cases done
  | account r | entries r =>
      cases r with
      | ok value => cases done
      | error e => cases done

theorem covered_solo (now : Stamp) (b : Book) (balanced : b.Balanced) (t : Transfer) (rest : List Transfer)
    (covers : b.position.Covers (t :: rest)) :
    ∃ later, (t.demand.task none).body.solo now none b = .ok (wentAhead, later) ∧ later.Balanced ∧
      later.position.Covers rest ∧ Settled b later [t] := by
  have fits := Position.covered_within_limit b.position t rest covers
  obtain ⟨goes, balances⟩ := Position.covered_done b.position t rest covers
  obtain ⟨outcome, later, solo, told, _, same⟩ := solo_follows now b (Book.balanced_tidy b balanced) _ fits
  obtain rfl := done_outcome outcome (told.trans goes)
  have writes : Ledger.Writes now b later (.createTransfer t) := by
    rcases demand_effect t.demand now b _ later solo with ⟨o, asks, _, _, writes⟩ | ⟨nothing, _⟩
    · cases asks
      exact writes
    · cases nothing
  refine ⟨later, solo, Ledger.writes_balanced now b later balanced _ writes, ?_, ?_, ?_⟩
  · rw [same]
    exact Position.covered_rest b.position t rest covers
  · rw [same, balances]
  · exact (Ledger.transfer_moves now b later balanced t writes).2

-- Transfers executed one after another, each alone at its reading of the clock.
def inTurn (book : Book) : List (Transfer × Stamp) → List Answer × Book
  | [] => ([], book)
  | (t, now) :: rest =>
    let done := t.demand.alone now book
    let later := inTurn done.2 rest
    (done.1 :: later.1, later.2)

theorem in_turn_settles (book : Book) (balanced : book.Balanced) (order : List (Transfer × Stamp))
    (covers : book.position.Covers (order.map Prod.fst)) :
    (inTurn book order).1 = order.map (fun _ => wentAhead) ∧ Settled book (inTurn book order).2 (order.map Prod.fst) := by
  induction order generalizing book with
  | nil => exact ⟨rfl, settled_none book⟩
  | cons first rest ih =>
      obtain ⟨t, now⟩ := first
      obtain ⟨later, solo, balancedLater, coversRest, settled⟩ := covered_solo now book balanced t _ covers
      have alone := alone_of_solo t.demand now book _ later solo
      obtain ⟨answers, settledRest⟩ := ih later balancedLater coversRest
      rw [inTurn, alone]
      exact ⟨congrArg (wentAhead :: ·) answers, settled_trans book later _ [t] _ settled settledRest⟩

namespace History

def asked (events : List Event) : List Demand :=
  events.filterMap fun e =>
    match e with
    | .ask _ d => some d
    | _ => none

def unanswered (h : History) : List Demand :=
  ((h.demands.zip h.system.processes).filter fun x => !x.2.isFinished).map fun x => x.1.1

theorem zip_set {α β : Type} (l : List α) (m : List β) (i : Nat) (x : α) (y : β) (found : l[i]? = some x) :
    l.zip (m.set i y) = (l.zip m).set i (x, y) := by
  induction l generalizing m i with
  | nil => cases found
  | cons head tail ih =>
      cases m with
      | nil => rfl
      | cons first rest =>
          cases i with
          | zero =>
              cases found
              rfl
          | succ i => exact congrArg ((head, first) :: ·) (ih rest i found)

theorem unanswered_set (h : History) (id : Nat) (d : Demand) (started : Nat) (p q : Process Answer)
    (asked : h.demands[id]? = some (d, started)) (found : h.system.processes[id]? = some p)
    (unfinished : p.isFinished = false) (next : History) (demands : next.demands = h.demands)
    (processes : next.system.processes = h.system.processes.set id q) :
    (unanswered h).Perm (if q.isFinished then d :: unanswered next else unanswered next) := by
  have zipped : next.demands.zip next.system.processes = (h.demands.zip h.system.processes).set id ((d, started), q) := by
    rw [demands, processes, zip_set _ _ id _ q asked]
  have here : (h.demands.zip h.system.processes)[id]? = some ((d, started), p) :=
    List.getElem?_zip_eq_some.mpr ⟨asked, found⟩
  obtain ⟨bounded, same⟩ := List.getElem?_eq_some_iff.mp here
  have before := List.getElem_cons_eraseIdx_perm bounded
  have after := List.set_perm_cons_eraseIdx bounded ((d, started), q)
  rw [same] at before
  rw [← zipped] at after
  have chosen := ((before.filter fun x => !x.2.isFinished).map fun x => x.1.1).symm
  have left := (after.filter fun x => !x.2.isFinished).map fun x => x.1.1
  rw [List.filter_cons_of_pos (by simpa using unfinished)] at chosen
  refine chosen.trans ?_
  cases finished : q.isFinished with
  | true =>
      rw [List.filter_cons_of_neg (by simpa using finished)] at left
      exact left.symm.cons d
  | false =>
      rw [List.filter_cons_of_pos (by simpa using finished)] at left
      exact left.symm

section Concurrent

variable (start : Store) (transfers : List Transfer)

-- How far the transfers of a history have come, when some are still to be asked.
structure Underway (events : List Event) (unasked : List Demand) : Prop where
  progress : ∃ done left : List Transfer, (done ++ left).Perm transfers ∧
    Settled start.committed (books start events) done ∧ (books start events).position.Covers left ∧
      (unanswered (run start events) ++ unasked).Perm (left.map Transfer.demand)
  answers : ∀ (id : Nat) (a : Answer) (time : Nat),
    (run start events).system.processes[id]? = some (.finished a time) → a = wentAhead

theorem underway_same (events : List Event) (unasked : List Demand) (e : Event)
    (underway : Underway start transfers events unasked)
    (committed : books start (events ++ [e]) = books start events)
    (demands : (run start (events ++ [e])).demands = (run start events).demands)
    (processes : (run start (events ++ [e])).system.processes = (run start events).system.processes) :
    Underway start transfers (events ++ [e]) unasked := by
  refine ⟨?_, by rw [processes]; exact underway.answers⟩
  rw [committed, unanswered, demands, processes]
  exact underway.progress

theorem underway_ask (events : List Event) (unasked : List Demand) (limit : Option Nat) (d : Demand)
    (underway : Underway start transfers events (d :: unasked)) :
    Underway start transfers (events ++ [.ask limit d]) unasked := by
  have more : unanswered (run start (events ++ [.ask limit d])) = unanswered (run start events) ++ [d] := by
    simp only [unanswered, run_append, step]
    rw [List.zip_append (run_sound start events).count, List.filter_append, List.map_append]
    rfl
  have same : books start (events ++ [.ask limit d]) = books start events := by
    rw [books, run_append]
    rfl
  refine ⟨?_, ?_⟩
  · rw [same, more, List.append_assoc]
    exact underway.progress
  · intro id a time found
    rw [run_append] at found
    rcases found_last _ _ _ id found with old | ⟨_, new⟩
    · exact underway.answers id a time old
    · cases new

theorem underway_answer (events : List Event) (unasked : List Demand) (id : Nat) (d : Demand) (started : Nat)
    (p : Process Answer) (asked : (run start events).demands[id]? = some (d, started))
    (found : (run start events).system.processes[id]? = some p) (unfinished : p.isFinished = false) (a : Answer)
    (time : Nat)
    (balanced : (books start events).Balanced) (underway : Underway start transfers events unasked)
    (processes : (run start (events ++ [.poll id])).system.processes =
      (run start events).system.processes.set id (.finished a time))
    (undisturbed : ByItself start events (.poll id) ⟨id, d, a, started, events.length⟩) :
    Underway start transfers (events ++ [.poll id]) unasked := by
  obtain ⟨done, left, all, settled, covers, remain⟩ := underway.progress
  have demands : (run start (events ++ [.poll id])).demands = (run start events).demands := by
    rw [run_append]
    rfl
  -- The transfer that is answered is one of those that are left; all others stay covered without it.
  have fewer := unanswered_set (run start events) id d started p _ asked found unfinished _ demands processes
  have further : (d :: (unanswered (run start (events ++ [.poll id])) ++ unasked)).Perm (left.map Transfer.demand) :=
    (fewer.symm.append_right unasked).trans remain
  obtain ⟨t, member, rfl⟩ := List.mem_map.mp (further.mem_iff.mp List.mem_cons_self)
  obtain ⟨first, second, rfl⟩ := List.append_of_mem member
  have chosen : (first ++ t :: second).Perm (t :: (first ++ second)) := List.perm_middle
  have coversFirst := Position.covers_perm _ _ _ chosen covers
  obtain ⟨now, told⟩ := undisturbed
  obtain ⟨later, solo, _, coversRest, moved⟩ := covered_solo now (books start events) balanced t _ coversFirst
  have reached : a = wentAhead ∧ books start (events ++ [.poll id]) = later := by
    rcases told with ⟨e, refused⟩ | told
    · cases solo.symm.trans refused
    · cases solo.symm.trans told
      exact ⟨rfl, rfl⟩
  obtain ⟨rfl, same⟩ := reached
  refine ⟨⟨done ++ [t], first ++ second, ?_, ?_, ?_, ?_⟩, ?_⟩
  · rw [List.append_assoc]
    exact ((chosen.symm).append_left done).trans all
  · rw [same]
    exact settled_trans _ _ _ done [t] settled moved
  · rw [same]
    exact coversRest
  · exact (further.trans (chosen.map Transfer.demand)).cons_inv
  · intro other b at_ ended
    rw [processes] at ended
    by_cases own : id = other
    · subst own
      rw [List.getElem?_set_self (List.getElem?_eq_some_iff.mp found).1] at ended
      cases ended
      rfl
    · rw [List.getElem?_set_ne own] at ended
      exact underway.answers other b at_ ended

theorem underway_turn (events : List Event) (unasked : List Demand) (id : Nat) (d : Demand) (started : Nat)
    (p q : Process Answer) (asked : (run start events).demands[id]? = some (d, started))
    (found : (run start events).system.processes[id]? = some p) (unfinished : p.isFinished = false)
    (still : q.isFinished = false) (underway : Underway start transfers events unasked)
    (processes : (run start (events ++ [.poll id])).system.processes = (run start events).system.processes.set id q)
    (kept : books start (events ++ [.poll id]) = books start events) :
    Underway start transfers (events ++ [.poll id]) unasked := by
  obtain ⟨done, left, all, settled, covers, remain⟩ := underway.progress
  have demands : (run start (events ++ [.poll id])).demands = (run start events).demands := by
    rw [run_append]
    rfl
  have same := unanswered_set (run start events) id d started p q asked found unfinished _ demands processes
  rw [if_neg (by simp [still])] at same
  refine ⟨⟨done, left, all, ?_, ?_, (same.symm.append_right unasked).trans remain⟩, ?_⟩
  · rw [kept]
    exact settled
  · rw [kept]
    exact covers
  · intro other a time ended
    rw [processes] at ended
    by_cases own : id = other
    · subst own
      rw [List.getElem?_set_self (List.getElem?_eq_some_iff.mp found).1] at ended
      cases ended
      cases still
    · rw [List.getElem?_set_ne own] at ended
      exact underway.answers other a time ended

theorem underway_poll (events : List Event) (unasked : List Demand) (id : Nat)
    (quiet : Quiet start (events ++ [.poll id])) (balanced : (books start events).Balanced)
    (underway : Underway start transfers events unasked) :
    Underway start transfers (events ++ [.poll id]) unasked := by
  have sound := run_sound start events
  rcases poll_cases start events sound id with ⟨same, _⟩ | ⟨p, d, started, found, asked, finished⟩
  · refine underway_same start transfers events unasked _ underway ?_ ?_ ?_
    · rw [books, run_append]
      exact congrArg (fun y => y.store.committed) same
    · rw [run_append]
      rfl
    · rw [run_append]
      exact congrArg System.processes same
  · obtain ⟨turn, records⟩ := poll_step (run start events) id d started p asked found
    have stepped : run start (events ++ [.poll id]) = (run start events).step (.poll id) :=
      run_append start events _
    have processes : (run start (events ++ [.poll id])).system.processes =
        (run start events).system.processes.set id
          (p.poll Answer.refused id (run start events).system.store).1 := by
      rw [stepped, step, turn]
    have told : (run start (events ++ [.poll id])).records =
        (run start events).records ++ (run start events).answered id := by
      rw [stepped]
      rfl
    rw [records, finished] at told
    generalize (p.poll Answer.refused id (run start events).system.store).1 = q at processes told
    cases run_added start events (.poll id) with
    | nothing same kept =>
        refine underway_turn start transfers events unasked id d started p q asked found finished ?_
          underway processes kept
        cases q with
        | waiting job | running r => rfl
        | finished a time =>
            rw [same] at told
            simp at told
    | record r now added _ _ undisturbed =>
        cases q with
        | waiting job | running other =>
            rw [told] at added
            simp at added
        | finished a time =>
            have answered : r = ⟨id, d, a, started, events.length⟩ := by
              rw [added, sound.moment] at told
              simpa using told
            rw [answered] at undisturbed
            exact underway_answer start transfers events unasked id d started p asked found finished a time balanced
              underway processes (undisturbed quiet)

variable (idle : Idle start) (balanced : start.committed.Balanced) (covers : start.committed.position.Covers transfers)

include idle balanced covers in
theorem calm_underway (events : List Event) (unasked : List Demand) (calm : ∀ e ∈ events, e.Calm)
    (all : (asked events ++ unasked).Perm (transfers.map Transfer.demand)) : Underway start transfers events unasked := by
  induction events using List.reverseRecOn generalizing unasked with
  | nil =>
      refine ⟨⟨[], transfers, .refl _, settled_none _, covers, all⟩, ?_⟩
      intro id a time found
      cases found
  | append_singleton events e ih =>
      have calmBefore : ∀ e ∈ events, e.Calm := fun e member => calm e (List.mem_append_left _ member)
      have before := fun unasked => ih unasked calmBefore
      rw [asked, List.filterMap_append] at all
      cases e with
      | ask limit d =>
          refine underway_ask start transfers events unasked limit d (before (d :: unasked) ?_)
          rw [List.append_assoc] at all
          exact all
      | poll id =>
          have quiet := calm_quiet start (events ++ [.poll id]) idle calm
          rw [List.filterMap_cons_none rfl, List.filterMap_nil, List.append_nil] at all
          exact underway_poll start transfers events unasked id quiet (run_balanced start events balanced)
            (before unasked all)
      | drop id => exact (calm (.drop id) (List.mem_append_right _ List.mem_cons_self)).elim
      | advance time | tick now | control change =>
          rw [List.filterMap_cons_none rfl, List.filterMap_nil, List.append_nil] at all
          refine underway_same start transfers events unasked _ (before unasked all) ?_ ?_ ?_
          · rw [books, run_append]
            rfl
          · rw [run_append]
            rfl
          · rw [run_append]
            rfl

theorem demands_asked (events : List Event) : (run start events).demands.map Prod.fst = asked events := by
  induction events using List.reverseRecOn with
  | nil => rfl
  | append_singleton events e ih =>
      rw [run_append, asked, List.filterMap_append]
      cases e with
      | ask limit d =>
          simp only [step, List.map_append, ih]
          rfl
      | poll id | drop id | advance time | tick now | control change =>
          rw [List.filterMap_cons_none rfl, List.filterMap_nil, List.append_nil]
          exact ih

theorem results_same (y : System Answer) (a : Answer) (all : ∀ p ∈ y.processes, ∃ time, p = .finished a time) :
    ∃ results, y.results = some results ∧ results.map Prod.fst = List.replicate y.processes.length a := by
  obtain ⟨store, processes⟩ := y
  simp only [System.results] at all ⊢
  induction processes with
  | nil => exact ⟨[], rfl, rfl⟩
  | cons p rest ih =>
      obtain ⟨time, rfl⟩ := all p List.mem_cons_self
      obtain ⟨results, same, answers⟩ := ih fun p member => all p (List.mem_cons_of_mem _ member)
      refine ⟨(a, time) :: results, ?_, congrArg (a :: ·) answers⟩
      rw [List.mapM_cons, same]
      rfl

end Concurrent

-- A calm history in which just some transfers are asked for.
structure Brings (transfers : List Transfer) (events : List Event) : Prop where
  calm : ∀ e ∈ events, e.Calm
  all : (asked events).Perm (transfers.map Transfer.demand)

-- What it means that the order of transfers makes no difference: neither when they are executed one after another nor
-- when they take turns, and however far they have come by then.
structure AnyOrder (book : Book) (transfers : List Transfer) (start : Store) : Prop where
  serial : ∀ order : List (Transfer × Stamp), (order.map Prod.fst).Perm transfers →
    (inTurn book order).1 = order.map (fun _ => wentAhead) ∧ Settled book (inTurn book order).2 transfers
  answers : ∀ events, Brings transfers events → ∀ r ∈ (run start events).records, r.answer = wentAhead
  settles : ∀ events, Brings transfers events → (run start events).system.isFinished = true →
    Settled book (books start events) transfers ∧ ∃ results, (run start events).system.results = some results ∧
      results.map Prod.fst = List.replicate transfers.length wentAhead
  finishes : ∀ events, Brings transfers events → ∃ more, (∀ e ∈ more, e.IsTurn) ∧ Brings transfers (events ++ more) ∧
    (run start (events ++ more)).system.isFinished = true

theorem asked_turns (events more : List Event) (turns : ∀ e ∈ more, e.IsTurn) : asked (events ++ more) = asked events := by
  have nothing : asked more = [] := by
    apply List.filterMap_eq_nil_iff.mpr
    intro e member
    have turn := turns e member
    cases e with
    | poll id | advance time => rfl
    | ask limit d | drop id | tick now | control change => exact turn.elim
  have same : asked (events ++ more) = asked events ++ asked more := List.filterMap_append
  rw [same, nothing, List.append_nil]

theorem brings_turns (transfers : List Transfer) (events more : List Event) (brings : Brings transfers events)
    (turns : ∀ e ∈ more, e.IsTurn) : Brings transfers (events ++ more) := by
  refine ⟨?_, ?_⟩
  · intro e member
    rcases List.mem_append.mp member with old | new
    · exact brings.calm e old
    · have turn := turns e new
      cases e with
      | poll id | advance time => trivial
      | ask limit d | drop id | tick now | control change => exact turn.elim
  · rw [asked_turns events more turns]
    exact brings.all

theorem brought_answers (start : Store) (transfers : List Transfer) (events : List Event)
    (underway : Underway start transfers events []) (r : Record) (member : r ∈ (run start events).records) :
    r.answer = wentAhead := by
  obtain ⟨time, ended⟩ := (run_told start events).done r member
  exact underway.answers r.id r.answer time ended

theorem brought_settles (start : Store) (transfers : List Transfer) (events : List Event)
    (brings : Brings transfers events) (underway : Underway start transfers events [])
    (isFinished : (run start events).system.isFinished = true) :
    Settled start.committed (books start events) transfers ∧
      ∃ results, (run start events).system.results = some results ∧
      results.map Prod.fst = List.replicate transfers.length wentAhead := by
  obtain ⟨done, left, all, settled, _, remain⟩ := underway.progress
  have finished : ∀ p ∈ (run start events).system.processes, p.isFinished = true := List.all_eq_true.mp isFinished
  have nobody : unanswered (run start events) = [] := by
    rw [unanswered, List.filter_eq_nil_iff.mpr, List.map_nil]
    intro x among
    rw [finished x.2 (List.of_mem_zip among).2]
    decide
  rw [nobody, List.append_nil] at remain
  have empty : left = [] := List.map_eq_nil_iff.mp remain.nil_eq.symm
  rw [empty, List.append_nil] at all
  refine ⟨settled_any_order _ _ done transfers all settled, ?_⟩
  have same : ∀ p ∈ (run start events).system.processes, ∃ time, p = .finished wentAhead time := by
    intro p member
    obtain ⟨id, bounded, rfl⟩ := List.getElem_of_mem member
    have found := List.getElem?_eq_getElem bounded
    have ended := finished _ member
    generalize (run start events).system.processes[id] = p at found ended
    cases p with
    | waiting job | running r => cases ended
    | finished a time => exact ⟨time, by rw [underway.answers id a time found]⟩
  have count : (run start events).system.processes.length = transfers.length := by
    rw [← (run_sound start events).count, ← List.length_map Prod.fst, demands_asked, brings.all.length_eq,
      List.length_map]
  rw [← count]
  exact results_same _ wentAhead same

/-- Covered transfers come to the same in any order, on the books of any history and with any latency. -/
theorem covered_in_any_order (before : List Event) (clock : Stamp) (latency now : Nat) (transfers : List Transfer)
    (covers : (books Store.empty before).position.Covers transfers) :
    AnyOrder (books Store.empty before) transfers
      { Store.resting clock (books Store.empty before) with control := ⟨[], latency⟩, now } := by
  have balanced := run_balanced Store.empty before Book.empty_balanced
  generalize books Store.empty before = book at covers balanced
  have idle : Idle { Store.resting clock book with control := ⟨[], latency⟩, now } := ⟨rfl, rfl, rfl⟩
  have underway : ∀ events, Brings transfers events →
      Underway { Store.resting clock book with control := ⟨[], latency⟩, now } transfers events [] := by
    intro events brings
    refine calm_underway _ transfers idle balanced covers events [] brings.calm ?_
    rw [List.append_nil]
    exact brings.all
  refine ⟨?_, ?_, ?_, ?_⟩
  · intro order same
    obtain ⟨answers, settled⟩ :=
      in_turn_settles book balanced order (Position.covers_perm _ _ _ same.symm covers)
    exact ⟨answers, settled_any_order _ _ _ _ same settled⟩
  · exact fun events brings => brought_answers _ transfers events (underway events brings)
  · exact fun events brings => brought_settles _ transfers events brings (underway events brings)
  · intro events brings
    obtain ⟨more, turns, finished⟩ := run_finishes _ events idle.owner idle.queue
    exact ⟨more, turns, brings_turns transfers events more brings turns, finished⟩

-- An account that is emptied by two transfers, while the other pays back all that it has at first.
theorem covered_between_two :
    let hundred : Decimal := .ofWhole 100 (Nat.le_of_ble_eq_true rfl)
    let sixty : Decimal := .ofWhole 60 (Nat.le_of_ble_eq_true rfl)
    let forty : Decimal := .ofWhole 40 (Nat.le_of_ble_eq_true rfl)
    let before : List Event := [.ask none (.operation (.createAccount ⟨1, hundred⟩)), .poll 0,
      .ask none (.operation (.createAccount ⟨2, forty⟩)), .poll 1]
    let transfers : List Transfer := [⟨1, 2, sixty⟩, ⟨1, 2, forty⟩, ⟨2, 1, forty⟩]
    (books Store.empty before).position.Covers transfers ∧ AnyOrder (books Store.empty before) transfers
      { Store.resting default (books Store.empty before) with control := ⟨[], 5⟩, now := 0 } := by
  intro hundred sixty forty before transfers
  have rounded : (Amount.round hundred).value = 100 ∧ (Amount.round sixty).value = 60 ∧
      (Amount.round forty).value = 40 := by
    have shapes : Amount.round hundred = ⟨false, 10000000, 5, Nat.le_of_ble_eq_true rfl, by decide⟩ ∧
        Amount.round sixty = ⟨false, 6000000, 5, Nat.le_of_ble_eq_true rfl, by decide⟩ ∧
        Amount.round forty = ⟨false, 4000000, 5, Nat.le_of_ble_eq_true rfl, by decide⟩ := by decide
    rw [shapes.1, shapes.2.1, shapes.2.2]
    norm_num [Decimal.value, Decimal.signed]
  have accounts : (books Store.empty before).accounts =
      [⟨1, Amount.round hundred, default, default⟩, ⟨2, Amount.round forty, default, default⟩] := by decide
  have balance : (books Store.empty before).position.balance =
      fun id => if id = 1 then some 100 else if id = 2 then some 40 else none := by
    funext id
    simp only [Book.position, Book.account?, accounts, List.find?_cons, List.find?_nil]
    by_cases one : id = 1
    · simp [one, rounded]
    · by_cases two : id = 2
      · simp [two, rounded]
      · simp [one, two, beq_false_of_ne (Ne.symm one), beq_false_of_ne (Ne.symm two)]
  have held : ∀ id q, (books Store.empty before).position.balance id = some q → id = 1 ∧ q = 100 ∨ id = 2 ∧ q = 40 := by
    intro id q known
    simp only [balance] at known
    split at known
    · cases known
      exact .inl ⟨‹_›, rfl⟩
    · split at known
      · cases known
        exact .inr ⟨‹_›, rfl⟩
      · cases known
  have covers : (books Store.empty before).position.Covers transfers := by
    refine ⟨?_, ?_, ?_, ?_, ?_⟩
    · simp [transfers]
    · simp [transfers, sixty, forty, Decimal.value, Decimal.signed, Decimal.ofWhole]
    · simp [transfers, balance]
    · intro id q known
      rcases held id q known with ⟨rfl, rfl⟩ | ⟨rfl, rfl⟩ <;> norm_num [transfers, Transfer.value, rounded]
    · intro id q known
      rcases held id q known with ⟨rfl, rfl⟩ | ⟨rfl, rfl⟩ <;> norm_num [transfers, Transfer.value, rounded]
  exact ⟨covers, covered_in_any_order before default 5 0 transfers covers⟩

end History
end DoubleEntry
