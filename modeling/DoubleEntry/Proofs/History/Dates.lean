import DoubleEntry.Proofs.Book.Dates
import DoubleEntry.Proofs.History.Growth
import DoubleEntry.Proofs.History.Requests
import DoubleEntry.Proofs.Ledger.Dated
import DoubleEntry.Proofs.Store.Readings

/-!
Dates in histories. Accounts and the journal agree on them whatever the clock shows. Where its readings come in order, the
journal is in order of its dates, however the units of work were interleaved, failed or were cut off: the clock is read
under the lock, and what was read under it is all that gets written.
-/

set_option autoImplicit false

namespace DoubleEntry

open Session (Answer)
open Time (Stamp)

theorem demand_dated (limit : Option Nat) (d : Demand) : (d.task limit).body.Follows dating :=
  demand_inherits (fun _ p => p.Follows dating) (fun _ p a => .closes p a)
    (fun _ _ g p q => Program.mirrors_follows dating g p q) limit d fun o _ => Ledger.operation_dated limit o

namespace History

def readingsAt (h : History) : Event → List Stamp
  | .poll id =>
    match h.system.processes[id]? with
    | some p => p.readings id h.system.store
    | none => []
  | _ => []

def readingsFrom : History → List Event → List Stamp
  | _, [] => []
  | h, e :: rest => h.readingsAt e ++ readingsFrom (h.step e) rest

def readings (start : Store) (events : List Event) : List Stamp := readingsFrom ⟨⟨start, []⟩, [], [], 0⟩ events

theorem readings_append (start : Store) (events : List Event) (e : Event) :
    readings start (events ++ [e]) = readings start events ++ (run start events).readingsAt e := by
  have further : ∀ (events : List Event) (h : History),
      readingsFrom h (events ++ [e]) = readingsFrom h events ++ (events.foldl step h).readingsAt e := by
    intro events
    induction events with
    | nil => exact fun h => List.append_nil _
    | cons first rest ih =>
        intro h
        rw [List.cons_append, readingsFrom, ih, readingsFrom, List.append_assoc, List.foldl_cons]
  exact further events _

section Order

variable [Preorder Stamp] (seen : List Stamp) (h : History)

structure Dated (seen : List Stamp) (h : History) : Prop where
  committed : h.system.store.committed.Sequenced seen
  processes : ∀ p ∈ h.system.processes, p.Dated seen

theorem ask_dated (dated : Dated seen h) (limit : Option Nat) (d : Demand) : Dated seen (h.step (.ask limit d)) := by
  refine ⟨dated.committed, fun p member => ?_⟩
  rcases List.mem_append.mp member with old | new
  · exact dated.processes p old
  · rw [List.mem_singleton.mp new]
    refine ⟨demand_dated limit d, fun own deadline => ?_⟩
    obtain ⟨a, _, closes⟩ := (demand_orderly d limit).2 own deadline
    exact ⟨a, closes⟩

theorem poll_dated (dated : Dated seen h) (id : Nat) (ordered : (seen ++ h.readingsAt (.poll id)).Pairwise (· ≤ ·)) :
    Dated (seen ++ h.readingsAt (.poll id)) (h.step (.poll id)) := by
  rw [readingsAt] at ordered ⊢
  cases found : h.system.processes[id]? with
  | none =>
      rw [List.append_nil, step]
      simp only [System.step, found]
      exact ⟨dated.committed, dated.processes⟩
  | some p =>
      rw [found] at ordered
      have own := dated.processes p (List.mem_of_getElem? found)
      have turned := Process.poll_dated seen id Answer.refused h.system.store p ordered dated.committed own
      rw [step]
      simp only [System.step, found]
      refine ⟨turned.committed, fun q member => ?_⟩
      rcases List.mem_or_eq_of_mem_set member with old | rfl
      · exact Process.dated_more seen _ q (dated.processes q old)
      · exact turned.dated

theorem drop_dated (dated : Dated seen h) (id : Nat) : Dated seen (h.step (.drop id)) := by
  rw [step, dropped]
  cases found : h.system.processes[id]? with
  | none => exact ⟨dated.committed, dated.processes⟩
  | some p =>
      cases p with
      | finished a time => exact ⟨dated.committed, dated.processes⟩
      | waiting job | running r =>
          refine ⟨?_, fun q member => ?_⟩
          · simp only [Store.abandon_committed]
            exact dated.committed
          · rcases List.mem_or_eq_of_mem_set member with old | rfl
            · exact dated.processes q old
            · trivial

theorem run_dated (events : List Event) (ordered : (readings Store.empty events).Pairwise (· ≤ ·)) :
    Dated (readings Store.empty events) (run Store.empty events) := by
  induction events using List.reverseRecOn with
  | nil => exact ⟨⟨.nil, nofun⟩, nofun⟩
  | append_singleton events e ih =>
      rw [readings_append] at ordered ⊢
      have before := ih (List.pairwise_append.mp ordered).1
      rw [run_append]
      cases e with
      | poll id => exact poll_dated _ _ before id ordered
      | ask limit d =>
          rw [readingsAt, List.append_nil]
          · exact ask_dated _ _ before limit d
          · exact nofun
      | drop id =>
          rw [readingsAt, List.append_nil]
          · exact drop_dated _ _ before id
          · exact nofun
      | advance time | tick now | control change =>
          rw [readingsAt, List.append_nil]
          · exact ⟨before.committed, before.processes⟩
          · exact nofun

end Order

theorem books_dated (events : List Event) : (books Store.empty events).Dated := by
  induction events using List.reverseRecOn with
  | nil => exact Book.empty_dated
  | append_singleton events e ih =>
      cases run_changed Store.empty events e with
      | kept same _ =>
          rw [same]
          exact ih
      | wrote r now o _ _ writes =>
          exact Ledger.writes_dated now _ _ (run_balanced Store.empty events Book.empty_balanced) ih o writes

/-- Accounts and the journal agree on dates: an account was opened with its first entry and last changed with its last one.
Where the clock does not go back from one reading to the next, neither do the dates of the journal in the order of its
numbers, and no account was changed before it was opened. -/
theorem dates_agree [Preorder Stamp] (events : List Event) :
    (books Store.empty events).Dated ∧
      ((readings Store.empty events).Pairwise (· ≤ ·) →
        (∀ x ∈ (books Store.empty events).entries, ∀ y ∈ (books Store.empty events).entries,
          x.id ≤ y.id → x.created ≤ y.created) ∧
        ∀ a ∈ (books Store.empty events).accounts, a.created ≤ a.modified) := by
  have dated := books_dated events
  refine ⟨dated, fun ordered => ?_⟩
  have sequenced := (run_dated events ordered).committed.ordered
  exact ⟨Book.dates_by_number _ (run_in_order Store.empty events Book.empty_in_order) sequenced,
    Book.dated_span _ dated sequenced⟩

-- The order of time: moments, and the readings of a clock that counts, each among themselves.
@[reducible] def chronological : Preorder Stamp where
  le
    | .moment m, .moment n => m.seconds < n.seconds ∨ m.seconds = n.seconds ∧ m.nanos ≤ n.nanos
    | .tick m, .tick n => m ≤ n
    | _, _ => False
  le_refl stamp := by
    cases stamp with
    | moment m => exact .inr ⟨rfl, Nat.le_refl _⟩
    | tick n => exact Nat.le_refl n
  le_trans first second third := by
    cases first <;> cases second <;> cases third <;> simp only [false_implies, implies_true] <;> omega

def contended : List Event :=
  [.tick (.tick 1), .ask none (.operation (.createAccount ⟨1, .ofWhole 5 (by decide)⟩)), .poll 0,
    .control fun _ => ⟨[], 10⟩, .ask none (.operation (.createAccount ⟨2, .zero⟩)),
    .ask none (.operation (.createTransfer ⟨1, 2, .ofWhole 3 (by decide)⟩)), .poll 1, .poll 2, .advance 10, .poll 1,
    .poll 2, .tick (.tick 2), .control fun _ => ⟨[], 0⟩, .advance 20, .poll 1, .tick (.tick 3), .poll 2]

theorem dates_agree_contended : (readings Store.empty contended).Pairwise chronological.le ∧
    (books Store.empty contended).entries.map Entry.created = [.tick 1, .tick 1, .tick 3, .tick 3] ∧
    ∀ a ∈ (books Store.empty contended).accounts, chronological.le a.created a.modified := by
  have shown : readings Store.empty contended = [.tick 1, .tick 1, .tick 3] := by rfl
  have late : chronological.le (.tick 1) (.tick 3) := Nat.le_of_ble_eq_true rfl
  have ordered : (readings Store.empty contended).Pairwise chronological.le := by
    rw [shown]
    simp [late]
  exact ⟨ordered, by rfl, ((@dates_agree chronological contended).2 ordered).2⟩

end History

end DoubleEntry
