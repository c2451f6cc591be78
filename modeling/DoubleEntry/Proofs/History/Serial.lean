import DoubleEntry.Proofs.History.Records

/-!
Every history is serial. At every moment the books are what the demands that took effect until then make of the
first ones, one after another in the order of their answers; and each demand is answered as it is alone.
-/

set_option autoImplicit false

namespace DoubleEntry

open Session (Answer)
open Time (Stamp)

theorem success_no_trouble (r : Record) (effect : r.tookEffect = true) : r.isTroubled = false := by
  have success : r.answer.isSuccess = true := by
    simp only [Record.tookEffect, Bool.and_eq_true] at effect
    exact effect.2
  have fine : r.answer.isTrouble = false := by
    cases shape : r.answer with
    | outcome o =>
        rw [shape] at success
        have none : o.error? = .none := by simpa [Answer.isSuccess] using success
        simp [Answer.isTrouble, none]
    | response response =>
        rw [shape] at success
        have low : response.status < 300 := by simpa [Answer.isSuccess] using success
        simp only [Answer.isTrouble, decide_eq_false_iff_not]
        omega
    | refused e =>
        rw [shape] at success
        cases success
    | reply c reply | dropped | changed | noUnit name | together answers | blocked => rfl
  rw [Record.isTroubled, fine, Bool.and_false]

theorem serial_append (book : Book) (first second : List (Record × Stamp)) :
    serial book (first ++ second) = serial (serial book first) second :=
  List.foldl_append

namespace History

-- The records of what took effect before a moment.
def effective (moment : Nat) (stamped : List (Record × Stamp)) : List (Record × Stamp) :=
  stamped.filter fun x => x.1.tookEffect && decide (x.1.ended < moment)

theorem effective_append (moment : Nat) (first second : List (Record × Stamp)) :
    effective moment (first ++ second) = effective moment first ++ effective moment second :=
  List.filter_append ..

theorem effective_later (moment later : Nat) (stamped : List (Record × Stamp)) (ordered : moment ≤ later)
    (ended : ∀ x ∈ stamped, x.1.ended < moment) : effective later stamped = effective moment stamped := by
  apply List.filter_congr
  intro x member
  have before := ended x member
  rw [decide_eq_true before, decide_eq_true (Nat.lt_of_lt_of_le before ordered)]

variable (start : Store) (events : List Event)

structure Stamped (stamped : List (Record × Stamp)) : Prop where
  records : stamped.map Prod.fst = (run start events).records
  answered : ∀ x ∈ stamped, Answered start events x.1 x.2
  ordered : stamped.Pairwise fun x y => x.1.ended < y.1.ended
  books : ∀ moment ≤ events.length,
    (storeAt start events moment).committed = serial start.committed (effective moment stamped)

theorem answered_within (r : Record) (now : Stamp) (answered : Answered start events r now) :
    r.ended < events.length :=
  (List.getElem?_eq_some_iff.mp answered.turn).1

theorem answered_append (e : Event) (r : Record) (now : Stamp) (answered : Answered start events r now) :
    Answered start (events ++ [e]) r now := by
  have within := answered_within start events r now answered
  have before := store_at_append start events e r.ended (Nat.le_of_lt within)
  have after := store_at_append start events e (r.ended + 1) within
  refine ⟨begun_append events e _ _ answered.begun, ?_, answered.ordered, ?_, ?_, ?_, ?_⟩
  · rw [List.getElem?_append_left within]
    exact answered.turn
  · rw [before, after]
    exact answered.idle
  · intro fine
    obtain ⟨moment, later, earlier, turn, clock⟩ := answered.read fine
    have bound : moment < events.length := Nat.lt_of_le_of_lt earlier within
    refine ⟨moment, later, earlier, ?_, ?_⟩
    · rw [List.getElem?_append_left bound]
      exact turn
    · rw [store_at_append start events e moment (Nat.le_of_lt bound)]
      exact clock
  · rw [before, after]
    exact answered.alone
  · rw [before]
    exact answered.locked

theorem books_before (e : Event) (stamped more : List (Record × Stamp)) (sound : Stamped start events stamped)
    (later : ∀ x ∈ more, x.1.ended = events.length) (moment : Nat) (within : moment ≤ events.length) :
    (storeAt start (events ++ [e]) moment).committed =
      serial start.committed (effective moment (stamped ++ more)) := by
  have nothing : effective moment more = [] := by
    apply List.filter_eq_nil_iff.mpr
    intro x member
    have beyond : ¬ x.1.ended < moment := by
      rw [later x member]
      exact Nat.not_lt.mpr within
    simp [beyond]
  rw [store_at_append start events e moment within, effective_append, nothing, List.append_nil]
  exact sound.books moment within

theorem stamped_more (e : Event) (stamped more : List (Record × Stamp)) (sound : Stamped start events stamped)
    (records : (run start (events ++ [e])).records = (run start events).records ++ more.map Prod.fst)
    (single : more.Pairwise fun x y => x.1.ended < y.1.ended) (ended : ∀ x ∈ more, x.1.ended = events.length)
    (answered : ∀ x ∈ more, Answered start (events ++ [e]) x.1 x.2)
    (books : (run start (events ++ [e])).system.store.committed =
      serial (run start events).system.store.committed (effective (events.length + 1) more)) :
    Stamped start (events ++ [e]) (stamped ++ more) := by
  have earlier : ∀ x ∈ stamped, x.1.ended < events.length := fun x member =>
    answered_within start events x.1 x.2 (sound.answered x member)
  have before : (run start events).system.store.committed =
      serial start.committed (effective (events.length + 1) stamped) := by
    rw [effective_later events.length _ stamped (Nat.le_succ _) earlier, ← store_at_end]
    exact sound.books _ (Nat.le_refl _)
  refine ⟨?_, ?_, ?_, ?_⟩
  · rw [List.map_append, sound.records, records]
  · intro x member
    rcases List.mem_append.mp member with old | new
    · exact answered_append start events e x.1 x.2 (sound.answered x old)
    · exact answered x new
  · refine List.pairwise_append.mpr ⟨sound.ordered, single, ?_⟩
    intro x old y new
    rw [ended y new]
    exact earlier x old
  · intro moment within
    rw [List.length_append, List.length_singleton] at within
    rcases Nat.lt_succ_iff_lt_or_eq.mp (Nat.lt_succ_of_le within) with sooner | rfl
    · exact books_before start events e stamped more sound ended moment (Nat.lt_succ_iff.mp sooner)
    · rw [effective_append, serial_append, ← before, (store_around start events e).2, books]

theorem stamped_append (e : Event) (stamped : List (Record × Stamp)) (sound : Stamped start events stamped) :
    ∃ more, Stamped start (events ++ [e]) (stamped ++ more) := by
  obtain ⟨here, next⟩ := store_around start events e
  cases run_added start events e with
  | nothing records same =>
      refine ⟨[], stamped_more start events e stamped [] sound ?_ .nil ?_ ?_ same⟩
      · rw [records, List.map_nil, List.append_nil]
      · intro x member
        cases member
      · intro x member
        cases member
  | record r now records last answered _ =>
      refine ⟨[(r, now)], stamped_more start events e stamped _ sound records (List.pairwise_singleton _ _) ?_ ?_ ?_⟩
      · intro x member
        rw [List.mem_singleton.mp member]
        exact last
      · intro x member
        rw [List.mem_singleton.mp member]
        exact answered
      · cases effect : r.tookEffect with
        | false =>
            have idle := answered.idle effect
            rw [last, here, next] at idle
            rw [idle]
            simp [effective, effect, serial]
        | true =>
            have alone := alone_of_solo r.demand now _ _ _ (answered.alone (success_no_trouble r effect))
            rw [last, here, next] at alone
            simp [effective, effect, last, serial, alone]

theorem run_stamped : ∃ stamped, Stamped start events stamped := by
  induction events using List.reverseRecOn with
  | nil =>
      refine ⟨[], rfl, ?_, .nil, ?_⟩
      · intro x member
        cases member
      · intro moment _
        simp [storeAt, run, effective, serial]
  | append_singleton events e sound =>
      obtain ⟨stamped, sound⟩ := sound
      obtain ⟨more, sound⟩ := stamped_append start events e stamped sound
      exact ⟨_, sound⟩

-- A demand in trouble changed nothing. Any other got the answer, and left the books, that it gets and leaves alone
-- on the books before the turn of its answer, when the lock was its own or free.
structure AsAlone (r : Record) (now : Stamp) : Prop where
  nothing : r.isTroubled = true →
    (storeAt start events (r.ended + 1)).committed = (storeAt start events r.ended).committed
  alone : r.isTroubled = false → r.demand.alone now (storeAt start events r.ended).committed =
    (r.answer, (storeAt start events (r.ended + 1)).committed)
  locked : r.isTroubled = false → ∀ o, r.demand.operation? = some o → o.rejection? = none →
    (storeAt start events r.ended).Admits r.id
  balance : ∀ id, r.demand.operation? = some (.getBalance id) →
    r.answer = r.demand.shows (.getBalance id)
      (.account (Ledger.balanceIn (storeAt start events r.ended).committed id))

theorem answered_as_alone (r : Record) (now : Stamp) (answered : Answered start events r now) :
    AsAlone start events r now := by
  refine ⟨?_, ?_, ?_, ?_⟩
  · intro troubled
    apply answered.idle
    cases effect : r.tookEffect with
    | false => rfl
    | true =>
        rw [success_no_trouble r effect] at troubled
        cases troubled
  · intro fine
    exact alone_of_solo r.demand now _ _ _ (answered.alone fine)
  · intro fine o asks accepted
    rcases answered.locked fine with ⟨a, closes⟩ | admits
    · obtain ⟨e, rejected⟩ := demand_closes r.demand o asks a closes
      rw [accepted] at rejected
      cases rejected
    · exact admits
  · intro id asks
    have read : r.isTroubled = false := by simp [Record.isTroubled, Demand.isWrite, asks, Ledger.Operation.isRead]
    have alone := answered.alone read
    rw [demand_solo r.demand now _ (.getBalance id) asks, Ledger.get_balance_solo] at alone
    exact (congrArg Prod.fst (Except.ok.inj alone)).symm

-- Serial equivalence, for every store to start from and every order of events.
theorem histories_are_serial :
    ∃ stamped : List (Record × Stamp),
      stamped.map Prod.fst = (run start events).records ∧
      Told (run start events) ∧
      stamped.Pairwise (fun x y => x.1.ended < y.1.ended) ∧
      (run start events).system.store.committed =
        serial start.committed (stamped.filter fun x => x.1.tookEffect) ∧
      (∀ moment ≤ events.length, (storeAt start events moment).committed =
        serial start.committed (stamped.filter fun x => x.1.tookEffect && decide (x.1.ended < moment))) ∧
      ∀ x ∈ stamped, Answered start events x.1 x.2 ∧ AsAlone start events x.1 x.2 := by
  obtain ⟨stamped, sound⟩ := run_stamped start events
  refine ⟨stamped, sound.records, run_told start events, sound.ordered, ?_, sound.books, ?_⟩
  · -- Behind the last event all that took effect is told.
    have all : effective events.length stamped = stamped.filter fun x => x.1.tookEffect := by
      apply List.filter_congr
      intro x member
      have within := answered_within start events x.1 x.2 (sound.answered x member)
      rw [decide_eq_true within, Bool.and_true]
    rw [← all, ← store_at_end]
    exact sound.books _ (Nat.le_refl _)
  · intro x member
    have answered := sound.answered x member
    exact ⟨answered, answered_as_alone start events x.1 x.2 answered⟩

end History
end DoubleEntry
