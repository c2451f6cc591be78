import DoubleEntry.Proofs.History.Complete
import DoubleEntry.Proofs.LoadTest.InTurn

/-!
The tally of a load test agrees with the books. It makes no difference how many requests are under way at once, in which
order they are answered and how their work is interleaved: what the client counts is what has come to be in the books.
-/

set_option autoImplicit false

namespace DoubleEntry.LoadTest

open History (Idle Quiet books)
open Http (Response)
open Time (Span)

def Measures (t : Served) (o : Outcome) : Prop := ∃ latency, o = t.1.outcome ⟨latency, .ok t.2⟩

/-- The outcome of a request that was answered. A failure has the error for its text. -/
structure Tells (t : Served) (o : Outcome) : Prop where
  measured : Measures t o
  created : o.success = true ↔ o.status = some 201
  failed : o.success = false → o.error = some t.2.body ∧ 400 ≤ t.2.status ∧ t.2.Uniform

/-- There is one outcome for each of some plans, in some order. -/
def AllTold (plans : List Plan) (outcomes : List Outcome) : Prop :=
  ∃ served : List Served, (served.map Prod.fst).Perm plans ∧ List.Forall₂ Tells served outcomes

structure Opened (before : Book) (ids : List AccountId) (balances : Nat → Opening) (outcomes : List Outcome)
    (later : Book) : Prop where
  each : AllTold (openings ids balances) outcomes
  count : outcomes.length = ids.length
  successes : outcomes.countP Outcome.success = (freshIds before ids).card
  exist : ∀ id, later.has id = true ↔ before.has id = true ∨ id ∈ ids ∧ 1 ≤ id

structure Moved (before : Book) (ids : List AccountId) (count : Nat) (outcomes : List Outcome) (later : Book) : Prop where
  each : ∃ plans, transfers ids count = .ok plans ∧ AllTold plans outcomes ∧ plans.length = count ∧
    ∀ i < count, ∃ source destination, transferPair ids i = .ok (source, destination) ∧
      plans[i]? = some (makeTransfer source destination)
  count : outcomes.length = count
  entries : ∃ new, later.entries = before.entries ++ new ∧ new.length = 2 * outcomes.countP Outcome.success
  worth : later.worth = before.worth

section Outcomes

variable (served : List Served) (outcomes : List Outcome) (measured : List.Forall₂ Measures served outcomes)

include measured

theorem measured_successes : outcomes.countP Outcome.success = served.countP Served.isCreated := by
  induction measured with
  | nil => rfl
  | cons own _ ih =>
      obtain ⟨latency, rfl⟩ := own
      rw [List.countP_cons, List.countP_cons, ih]
      rfl

theorem measured_told (plans : List Plan) (all : (served.map Prod.fst).Perm plans)
    (told : ∀ t ∈ served, t.2.status = 201 ∨ 400 ≤ t.2.status ∧ t.2.Uniform) :
    AllTold plans outcomes ∧ outcomes.length = plans.length := by
  refine ⟨⟨served, all, ?_⟩, ?_⟩
  · clear all
    induction measured with
    | nil => exact .nil
    | @cons t o served outcomes own _ ih =>
        refine .cons ?_ (ih fun other member => told other (List.mem_cons_of_mem t member))
        obtain ⟨latency, rfl⟩ := own
        refine ⟨⟨latency, rfl⟩, by simp [Plan.outcome], fun failed => ?_⟩
        have unlike : t.2.status ≠ 201 := by simpa [Plan.outcome] using failed
        exact ⟨by simp [Plan.outcome, unlike], (told t List.mem_cons_self).resolve_left unlike⟩
  · rw [← measured.length_eq, ← List.length_map (f := Prod.fst), all.length_eq]

end Outcomes

section Plans

variable (ids : List AccountId) (fits : ∀ id ∈ ids, Text.isInt64 id = true)

include fits

theorem openings_posted (balances : Nat → Opening) : ∀ p ∈ openings ids balances, p.request.Posted := by
  intro p member
  obtain ⟨i, within, rfl⟩ := List.mem_mapIdx.mp member
  exact Http.opens_posted _ _ (opening_opens _ _ (fits _ (List.getElem_mem within)))

variable (some : ids ≠ []) (count : Nat) (narrow : count < Word.bound)

include some narrow

theorem transfers_planned : ∃ plans, transfers ids count = .ok plans ∧ plans.length = count ∧
    (∀ i < count, ∃ source destination, transferPair ids i = .ok (source, destination) ∧
      plans[i]? = .some (makeTransfer source destination)) ∧ ∀ p ∈ plans, p.Moves := by
  have long : 0 < ids.length := List.length_pos_of_ne_nil some
  let source := fun i => ids.getD (i % ids.length) 0
  let destination := fun i => ids.getD ((i + 1) % ids.length) 0
  have among : ∀ i, ids.getD (i % ids.length) 0 ∈ ids := by
    intro i
    have within := Nat.mod_lt i long
    rw [List.getD_eq_getElem _ _ within]
    exact List.getElem_mem within
  have pair : ∀ i < count, transferPair ids i = .ok (source i, destination i) := by
    intro i below
    exact pair_found ids i long (by omega)
  have all : transfers ids count = .ok ((List.range count).map fun i => makeTransfer (source i) (destination i)) := by
    apply all_done
    intro i member
    rw [pair i (List.mem_range.mp member)]
    rfl
  refine ⟨_, all, by simp, fun i below => ⟨source i, destination i, pair i below, by simp [below]⟩, ?_⟩
  intro p member
  obtain ⟨i, _, rfl⟩ := List.mem_map.mp member
  exact ⟨source i, destination i, ⟨fits _ (among i), fits _ (among (i + 1))⟩, rfl⟩

end Plans

section Phases

variable (before later : Book) (balanced : before.Balanced) (served : List Served) (turn : InTurn before served later)
  (outcomes : List Outcome) (measured : List.Forall₂ Measures served outcomes) (ids : List AccountId)
  (fits : ∀ id ∈ ids, Text.isInt64 id = true)

include balanced turn measured fits

theorem in_turn_opened (balances : Nat → Opening) (all : (served.map Prod.fst).Perm (openings ids balances)) :
    Opened before ids balances outcomes later := by
  have plans : List.Forall₂ Plan.Opens (openings ids balances) ids := by
    rw [List.forall₂_iff_get]
    refine ⟨by simp [openings], ?_⟩
    intro i _ _
    exact ⟨balances i, by simp [openings]⟩
  -- The ids in the order in which they were dealt with.
  obtain ⟨order, opens, same⟩ := List.perm_comp_forall₂ all plans
  rw [List.forall₂_map_left_iff] at opens
  have posted : ∀ t ∈ served, t.1.request.Posted := fun t member =>
    openings_posted ids fits balances t.1 (all.mem_iff.mp (List.mem_map_of_mem member))
  have told := in_turn_told before later served turn posted
  obtain ⟨successes, accounts⟩ :=
    openings_in_turn before later served order turn balanced opens fun id member => fits id (same.mem_iff.mp member)
  obtain ⟨each, count⟩ := measured_told served outcomes measured _ all told
  have sameIds : freshIds before order = freshIds before ids := by
    rw [freshIds, List.toFinset_eq_of_perm _ _ same, freshIds]
  refine ⟨each, ?_, ?_, ?_⟩
  · rw [count, openings, List.length_mapIdx]
  · rw [measured_successes served outcomes measured, successes, sameIds]
  · intro id
    rw [accounts, same.mem_iff]

theorem in_turn_moved (some : ids ≠ []) (count : Nat) (narrow : count < Word.bound) (plans : List Plan)
    (planned : transfers ids count = .ok plans) (all : (served.map Prod.fst).Perm plans) :
    Moved before ids count outcomes later := by
  obtain ⟨_, same, length, pairs, moves⟩ := transfers_planned ids fits some count narrow
  cases planned.symm.trans same
  have own : ∀ t ∈ served, t.1.Moves := fun t member => moves t.1 (all.mem_iff.mp (List.mem_map_of_mem member))
  have told := in_turn_told before later served turn fun t member => (moves_asks t.1 (own t member)).1
  obtain ⟨worth, entries⟩ := transfers_in_turn before later served turn balanced own
  obtain ⟨each, size⟩ := measured_told served outcomes measured plans all told
  refine ⟨⟨plans, planned, each, length, pairs⟩, size.trans length, ?_, worth⟩
  rw [measured_successes served outcomes measured]
  exact entries

end Phases

section Pool

-- The service has nothing else to do, and a request is answered before it is given up.
structure Ready (s : Store) : Prop extends Idle s where
  patient : 7 * s.control.latency ≤ Session.patience

theorem ledger_serves (p : Plan) (posted : p.request.Posted) (s : Store) (ready : Ready s) : ∃ x after now,
    ledger p s = (⟨Span.zero, .ok x⟩, after) ∧ Ready after ∧
      ((Demand.request p.request).task none).body.solo now none s.committed = .ok (.response x, after.committed) := by
  let fresh : Store := { s with clock := .tick 0, log := [] }
  have idle : Idle fresh := ⟨ready.owner, ready.queue, ready.quiet⟩
  obtain ⟨x, later, time, log, ran, solo⟩ :=
    Http.posted_executed fresh idle p.request posted (Session.patience - 7 * s.control.latency)
  have waits : fresh.now + 7 * fresh.control.latency + (Session.patience - 7 * s.control.latency) =
      s.now + Session.patience := by
    have patient := ready.patient
    simp only [fresh]
    omega
  rw [Demand.executed, waits] at ran
  have served : ledger p s = (⟨Span.zero, .ok x⟩, fresh.leftAt later time log) := by
    have step : (System.run Session.Answer.refused (s.now + Session.patience) fresh
        (Session.jobs none (.request p.request))) = (_, fresh.leftAt later time log) := ran
    simp only [ledger, Session.runStep]
    rw [step]
    rfl
  exact ⟨x, _, _, served, ⟨⟨ready.owner, ready.queue, ready.quiet⟩, ready.patient⟩, solo⟩

variable (width : Nat) (picks : Nat → Nat) (some : 0 < width)

include some

-- By the number of requests that are left.
theorem pool_in_turn (left : Nat) (pending : List Plan) (s : Store) (ready : Ready s)
    (posted : ∀ p ∈ pending, p.request.Posted) (all : pending.length = left) : ∃ served,
    InTurn s.committed served (postFrom ledger width picks left pending s).2.committed ∧
      (served.map Prod.fst).Perm pending ∧
      List.Forall₂ Measures served (postFrom ledger width picks left pending s).1 := by
  induction left generalizing pending s with
  | zero =>
      rw [List.eq_nil_of_length_eq_zero all]
      exact ⟨[], .done _, .refl _, .nil⟩
  | succ left ih =>
      have wide : 0 < min width pending.length := by omega
      have turn : picks left % min width pending.length < min width pending.length := Nat.mod_lt _ wide
      generalize picked : picks left % min width pending.length = i at turn
      have within : i < pending.length := by omega
      have found : (pending.take width)[i]? = .some pending[i] := by
        rw [List.getElem?_take_of_lt (by omega), List.getElem?_eq_getElem within]
      obtain ⟨x, after, now, answered, readyAfter, solo⟩ :=
        ledger_serves pending[i] (posted _ (List.getElem_mem within)) s ready
      obtain ⟨served, inTurn, same, measured⟩ := ih (pending.eraseIdx i) after readyAfter
        (fun p member => posted p (List.mem_of_mem_eraseIdx member)) (by rw [List.length_eraseIdx_of_lt within, all]; rfl)
      simp only [postFrom, picked, found, answered]
      refine ⟨(pending[i], x) :: served, .next now _ _ _ _ x served solo inTurn, ?_, .cons ⟨_, rfl⟩ measured⟩
      exact (same.cons pending[i]).trans (List.getElem_cons_eraseIdx_perm within)

end Pool

section Histories

def Plan.demand (p : Plan) : Demand := .request p.request

/-- Of some plans, each has its response in a history, and nothing else has; this is what the client keeps of them. -/
def AllAnswered (h : History) (plans : List Plan) (outcomes : List Outcome) : Prop :=
  ∃ served : List Served, (served.map Prod.fst).Perm plans ∧
    h.records.map Record.demand = served.map (fun t => t.1.demand) ∧
    h.records.map Record.answer = served.map (fun t => .response t.2) ∧ List.Forall₂ Measures served outcomes

variable (start : Store)

theorem history_in_turn (events : List Event) (quiet : Quiet start events) (plans : List Plan)
    (posted : ∀ p ∈ plans, p.request.Posted)
    (same : (History.run start events).records.map Record.demand = plans.map Plan.demand) : ∃ served : List Served,
      served.map Prod.fst = plans ∧
      (History.run start events).records.map Record.answer = served.map (fun t => .response t.2) ∧
      InTurn start.committed served (books start events) := by
  -- From the last event back: it answers nobody, or it is the turn of the plan that is served last.
  induction events using List.reverseRecOn generalizing plans with
  | nil =>
      rw [List.map_eq_nil_iff.mp same.symm]
      exact ⟨[], rfl, rfl, .done _⟩
  | append_singleton events e ih =>
      have before := History.quiet_append start events e quiet
      cases History.run_added start events e with
      | nothing records kept =>
          have kept : books start (events ++ [e]) = books start events := kept
          rw [records] at same ⊢
          rw [kept]
          exact ih before plans posted same
      | record r _ records _ _ undisturbed =>
          rw [records, List.map_append] at same
          obtain ⟨first, last, rfl, earlier, own⟩ := List.map_eq_append_iff.mp same.symm
          rw [List.map_singleton, List.map_eq_singleton_iff] at own
          obtain ⟨p, rfl, asked⟩ := own
          obtain ⟨served, sameFirst, answers, turn⟩ :=
            ih before first (fun p member => posted p (List.mem_append_left _ member)) earlier.symm
          obtain ⟨now, told⟩ := undisturbed quiet
          obtain ⟨x, later, solo, _⟩ := Http.posted_fares p.request (posted p (by simp)) now (books start events)
          have solo : (r.demand.task none).body.solo now none (books start events) = .ok (.response x, later) := by
            rw [← asked]
            exact solo
          have reached : r.answer = .response x ∧ books start (events ++ [e]) = later := by
            rcases told with ⟨refused, failed⟩ | told
            · cases failed.symm.trans solo
            · have both := Except.ok.inj (told.symm.trans solo)
              exact ⟨congrArg Prod.fst both, congrArg Prod.snd both⟩
          rw [← asked] at solo
          refine ⟨served ++ [(p, x)], ?_, ?_, ?_⟩
          · rw [List.map_append, sameFirst]
            rfl
          · rw [records, List.map_append, List.map_append, answers, List.map_singleton, reached.1]
            rfl
          · rw [reached.2]
            exact in_turn_append _ _ _ _ _ turn (.next now _ _ _ p x [] solo (.done _))

theorem answered_in_turn (events : List Event) (quiet : Quiet start events) (plans : List Plan) (outcomes : List Outcome)
    (posted : ∀ p ∈ plans, p.request.Posted) (answered : AllAnswered (History.run start events) plans outcomes) :
    ∃ served : List Served, InTurn start.committed served (books start events) ∧ (served.map Prod.fst).Perm plans ∧
      List.Forall₂ Measures served outcomes := by
  obtain ⟨served, all, demands, answers, measured⟩ := answered
  obtain ⟨same, plansSame, answersSame, turn⟩ := history_in_turn start events quiet (served.map Prod.fst)
    (fun p member => posted p (all.mem_iff.mp member)) (by rw [demands, List.map_map]; rfl)
  have responses : same.map Prod.snd = served.map Prod.snd := by
    have injective : Function.Injective Session.Answer.response := fun _ _ => Session.Answer.response.inj
    apply injective.list_map
    rw [List.map_map, List.map_map]
    exact answersSame.symm.trans answers
  have pairs : ∀ l : List Served, (l.map Prod.fst).zip (l.map Prod.snd) = l := fun l => by
    rw [List.zip_map']
    exact List.map_id l
  have own : same = served := by rw [← pairs same, plansSame, responses, pairs]
  exact ⟨served, own ▸ turn, all, measured⟩

/-- However far the requests of some plans have come, all of them can be brought to their responses. -/
def Finishes (plans : List Plan) : Prop :=
  ∀ events, (∀ e ∈ events, e.Still) → (History.asked events).Perm (plans.map Plan.demand) → ∃ more outcomes,
    (∀ e ∈ more, e.IsTurn) ∧ Quiet start (events ++ more) ∧ AllAnswered (History.run start (events ++ more)) plans outcomes

theorem load_finishes (idle : Idle start) (plans : List Plan) (posted : ∀ p ∈ plans, p.request.Posted) :
    Finishes start plans := by
  intro events still asks
  obtain ⟨more, turns, finished⟩ := History.run_finishes start events idle.owner idle.queue
  have stillMore : ∀ e ∈ events ++ more, e.Still := by
    intro e member
    rcases List.mem_append.mp member with old | new
    · exact still e old
    · exact turn_still e (turns e new)
  have quiet := History.still_quiet start (events ++ more) idle stillMore
  have complete := History.still_complete start (events ++ more) stillMore finished
  rw [History.asked_turns events more turns] at complete
  obtain ⟨order, demands, all⟩ : Relation.Comp (· = List.map Plan.demand ·) List.Perm
      ((History.run start (events ++ more)).records.map Record.demand) plans := by
    rw [List.eq_map_comp_perm]
    exact complete.trans asks
  obtain ⟨served, same, answers, _⟩ := history_in_turn start (events ++ more) quiet order
    (fun p member => posted p (all.mem_iff.mp member)) demands
  rw [← same] at all demands
  rw [List.map_map] at demands
  refine ⟨more, served.map fun t => t.1.outcome ⟨Span.zero, .ok t.2⟩, turns, quiet, served, all, demands, answers, ?_⟩
  rw [List.forall₂_map_right_iff, List.forall₂_same]
  exact fun t _ => ⟨_, rfl⟩

end Histories

/-- How a load test agrees with the books, with any balances of new accounts and any number of transfers: run as a pool of
any width whose answers are picked in any way, or with its requests interleaved in any history without faults and
deadlines. -/
structure Agrees (s : Store) (ids : List AccountId) : Prop where
  opened : 7 * s.control.latency ≤ Session.patience → ∀ width picks balances, 0 < width →
    let run := createAccounts ledger width picks balances ids s
    Opened s.committed ids balances run.1 run.2.committed
  moved : 7 * s.control.latency ≤ Session.patience → ids ≠ [] → ∀ width picks count, 0 < width → count < Word.bound →
    ∃ outcomes after, performTransfers ledger width picks ids count s = .ok (outcomes, after) ∧
      Moved s.committed ids count outcomes after.committed
  openedInterleaved : ∀ balances, Finishes s (openings ids balances) ∧ ∀ events outcomes, Quiet s events →
    AllAnswered (History.run s events) (openings ids balances) outcomes →
    Opened s.committed ids balances outcomes (books s events)
  movedInterleaved : ids ≠ [] → ∀ count, count < Word.bound → ∃ plans, transfers ids count = .ok plans ∧
    Finishes s plans ∧ ∀ events outcomes, Quiet s events → AllAnswered (History.run s events) plans outcomes →
    Moved s.committed ids count outcomes (books s events)

/-- What a load test counts is what it did to the books, whichever accounts are open and however much goes on at once. -/
theorem tally_agrees (s : Store) (idle : Idle s) (balanced : s.committed.Balanced) (ids : List AccountId)
    (fits : ∀ id ∈ ids, Text.isInt64 id = true) : Agrees s ids := by
  refine ⟨?_, ?_, ?_, ?_⟩
  · intro patient width picks balances some run
    obtain ⟨served, turn, all, measured⟩ := pool_in_turn width picks some _ (openings ids balances) s
      ⟨idle, patient⟩ (openings_posted ids fits balances) rfl
    exact in_turn_opened _ _ balanced served turn _ measured ids fits balances all
  · intro patient nonempty width picks count some narrow
    obtain ⟨plans, planned, _, _, moves⟩ := transfers_planned ids fits nonempty count narrow
    obtain ⟨served, turn, all, measured⟩ := pool_in_turn width picks some _ plans s ⟨idle, patient⟩
      (fun p member => (moves_asks p (moves p member)).1) rfl
    refine ⟨_, _, by rw [performTransfers, planned]; rfl, ?_⟩
    exact in_turn_moved _ _ balanced served turn _ measured ids fits nonempty count narrow plans planned all
  · intro balances
    have posted := openings_posted ids fits balances
    refine ⟨load_finishes s idle _ posted, fun events outcomes quiet answered => ?_⟩
    obtain ⟨served, turn, all, measured⟩ := answered_in_turn s events quiet _ outcomes posted answered
    exact in_turn_opened _ _ balanced served turn _ measured ids fits balances all
  · intro nonempty count narrow
    obtain ⟨plans, planned, _, _, moves⟩ := transfers_planned ids fits nonempty count narrow
    have posted : ∀ p ∈ plans, p.request.Posted := fun p member => (moves_asks p (moves p member)).1
    refine ⟨plans, planned, load_finishes s idle _ posted, fun events outcomes quiet answered => ?_⟩
    obtain ⟨served, turn, all, measured⟩ := answered_in_turn s events quiet plans outcomes posted answered
    exact in_turn_moved _ _ balanced served turn _ measured ids fits nonempty count narrow plans planned all

-- An id twice, one that is no id and one that is taken: one account is opened, also if all is asked for before anything is
-- answered.
theorem tally_agrees_mixed :
    let before : List Event := [.ask none (.operation (.createAccount ⟨3, .zero⟩)), .poll 0]
    let s : Store := { Store.resting default (books Store.empty before) with control := ⟨[], 5⟩ }
    let ids : List AccountId := [1, 1, -2, 3]
    Idle s ∧ s.committed.Balanced ∧ (∀ id ∈ ids, Text.isInt64 id = true) ∧ Agrees s ids ∧
      ∀ balances, ∃ events outcomes, Quiet s events ∧
        AllAnswered (History.run s events) (openings ids balances) outcomes ∧ outcomes.countP Outcome.success = 1 := by
  intro before s ids
  have idle : Idle s := ⟨rfl, rfl, rfl⟩
  have balanced := History.run_balanced Store.empty before Book.empty_balanced
  have fits : ∀ id ∈ ids, Text.isInt64 id = true := by decide
  have agrees := tally_agrees s idle balanced ids fits
  refine ⟨idle, balanced, fits, agrees, fun balances => ?_⟩
  let asks : List Event := (openings ids balances).map fun p => .ask none p.demand
  have still : ∀ e ∈ asks, e.Still := List.forall_mem_map.mpr fun p _ => rfl
  have asked : History.asked asks = (openings ids balances).map Plan.demand := by
    rw [History.asked, List.filterMap_map, ← List.filterMap_eq_map]
    rfl
  obtain ⟨finishes, opened⟩ := agrees.openedInterleaved balances
  obtain ⟨more, outcomes, _, quiet, answered⟩ := finishes asks still (.of_eq asked)
  have one : (freshIds s.committed ids).card = 1 := by decide
  exact ⟨asks ++ more, outcomes, quiet, answered, (opened _ outcomes quiet answered).successes.trans one⟩

end DoubleEntry.LoadTest
