import DoubleEntry.Proofs.Book.Dates
import DoubleEntry.Proofs.Store.Place
import DoubleEntry.Proofs.Store.Poll

/-!
Readings of the clock, and the dates that get into the books by them. Where programs date what they write, a journal is in
the order of its dates as long as the readings are in order: whoever is in the middle of a unit of work has read the clock
after all that is in its copy was dated.
-/

set_option autoImplicit false

namespace DoubleEntry

open Time (Stamp)

variable {α : Type}

-- The readings of the clock that are made where a program is run.
def Store.readings (id : Nat) : Program α → Wait → Option Book → Store → List Stamp
  | .done _, _, _, _ => []
  | .log line rest, _, book, s => readings id rest .fresh book (s.logLine line)
  | .clock next, _, book, s => s.clock :: readings id (next s.clock) .fresh book s
  | .call c next, wait, book, s =>
    match s.approach id c wait with
    | .failed e => readings id (next (.error e)) .fresh (s.failed c book).1 (s.failed c book).2
    | .wait _ => []
    | .go =>
      match s.perform id book c with
      | .ok (reply, book, s) => readings id (next reply) .fresh book s
      | .error _ => []

namespace Process

def readingsFrom (id : Nat) (r : Running α) (s : Store) : List Stamp :=
  Store.readings id r.program r.wait r.book s ++
  match Store.run id r.program r.wait r.book s with
  | (.paused _ _ _, s) =>
    match r.deadline.filter fun d => d.after ≤ s.now with
    | some d => Store.readings id d.instead .fresh none (s.withdraw id)
    | none => []
  | _ => []

def readings (id : Nat) (s : Store) : Process α → List Stamp
  | waiting (.task t) =>
    readingsFrom id ⟨t.body, .fresh, none, none, t.deadline.map fun d => { d with after := s.now + d.after }⟩ s
  | running r => readingsFrom id r s
  | _ => []

end Process

namespace Process

theorem closing_readings (id : Nat) (s : Store) (p : Program α) (a : α) (closes : p.Closes a) (wait : Wait)
    (unit : Option Book) : Store.readings id p wait unit s = [] := by
  induction closes generalizing wait unit s with
  | done a => rfl
  | log line rest a _ ih => exact ih (s.logLine line) .fresh unit

end Process

section Order

variable [Preorder Stamp]

namespace Program

abbrev Dated (readings : List Stamp) (p : Program α) (unit : Option Book) : Prop :=
  p.Placed dating (fun reading copy => copy.Open readings reading) unit

section Runs

variable (readings : List Stamp) (id : Nat) (s : Store)

theorem dated_more (more : List Stamp) (p : Program α) (unit : Option Book) (dated : p.Dated readings unit) :
    p.Dated (readings ++ more) unit :=
  placed_keeps dating _ _ (fun reading copy fine => Book.open_more readings more reading copy fine) p unit dated

theorem clock_dated (next : Stamp → Program α) (now : Stamp) (unit : Option Book)
    (ordered : (readings ++ [now]).Pairwise (· ≤ ·)) (dated : (Program.clock next).Dated readings unit) :
    (next now).Dated (readings ++ [now]) unit :=
  clock_placed dating _ _ next now unit (fun _ copy _ fine => Book.open_read readings now copy fine.sequenced ordered) dated

-- A unit of work begins on what is committed, and what it commits is its copy.
theorem performed_dated (c : Call) (next : Except StoreError c.Reply → Program α) (unit : Option Book)
    (dated : (Program.call c next).Dated readings unit) (committed : s.committed.Sequenced readings)
    (reply : Except StoreError c.Reply) (after : Option Book) (later : Store)
    (performed : s.perform id unit c = .ok (reply, after, later)) :
    (next reply).Dated readings after ∧ later.committed.Sequenced readings := by
  have keeps : ∀ reading (copy : Book) reply mid, copy.Open readings reading → dating.allows reading c →
      copy.answer c = .ok (reply, mid) → ∃ other, dating.leads reading c reply other ∧ mid.Open readings other :=
    fun reading copy reply mid fine own answered =>
      ⟨reading, rfl, Book.open_answer readings reading copy fine c own reply mid answered⟩
  obtain ⟨placed, same | ⟨_, _, reading, fine⟩⟩ := performed_placed dating _ s c next unit dated id
    ⟨none, rfl, committed, nofun⟩ keeps reply after later performed
  · exact ⟨placed, by rw [same]; exact committed⟩
  · exact ⟨placed, fine.sequenced⟩

structure Kept (seen : List Stamp) (x : Stop α × Store) : Prop where
  committed : x.2.committed.Sequenced seen
  paused : ∀ p wait unit, x.1 = .paused p wait unit → p.Dated seen unit

theorem run_kept (p : Program α) (wait : Wait) (unit : Option Book)
    (ordered : (readings ++ Store.readings id p wait unit s).Pairwise (· ≤ ·)) (committed : s.committed.Sequenced readings)
    (dated : p.Dated readings unit) :
    Kept (readings ++ Store.readings id p wait unit s) (Store.run id p wait unit s) := by
  -- On the program. What has been read grows on the way, and the copy of an open unit stays behind it.
  induction p generalizing readings s wait unit with
  | done a => exact ⟨Book.sequenced_more readings _ _ committed, fun _ _ _ impossible => by cases impossible⟩
  | log line rest ih =>
      have own := log_placed dating _ line rest unit dated
      exact ih readings (s.logLine line) .fresh unit ordered committed own
  | clock next ih =>
      rw [Store.readings, List.append_cons] at ordered ⊢
      have own := clock_dated readings next s.clock unit (List.pairwise_append.mp ordered).1 dated
      exact ih s.clock (readings ++ [s.clock]) s .fresh unit ordered (Book.sequenced_more readings _ _ committed) own
  | call c next ih =>
      rw [Store.readings] at ordered ⊢
      rw [Store.run]
      cases admission : s.approach id c wait with
      | failed e =>
          obtain ⟨goesOn, same⟩ := failed_placed dating _ s c next unit dated e fun _ => rfl
          rw [admission] at ordered
          exact ih (.error e) readings _ .fresh _ ordered (by rw [same]; exact committed) goesOn
      | wait later =>
          rw [admission, List.append_nil] at *
          refine ⟨by rw [Store.enqueue_committed]; exact committed, ?_⟩
          rintro _ _ _ ⟨⟩
          exact dated
      | go =>
          rw [admission] at ordered
          cases performed : s.perform id unit c with
          | error e =>
              rw [List.append_nil]
              exact ⟨committed, fun _ _ _ impossible => by cases impossible⟩
          | ok result =>
              obtain ⟨reply, after, later⟩ := result
              simp only [performed] at ordered ⊢
              obtain ⟨goesOn, still⟩ :=
                performed_dated readings id s c next unit dated committed reply after later performed
              exact ih reply readings later .fresh after ordered still goesOn

end Runs

end Program

namespace Process

def Dated (readings : List Stamp) : Process α → Prop
  | waiting (.task t) => t.body.Follows dating ∧ ∀ d, t.deadline = some d → ∃ a, d.instead.Closes a
  | waiting _ => False
  | running r => r.program.Dated readings r.book ∧ ∀ d, r.deadline = some d → ∃ a, d.instead.Closes a
  | finished _ _ => True

section Turns

variable (readings : List Stamp) (id : Nat) (crashed : ArithmeticError → α) (s : Store)

theorem dated_more (more : List Stamp) (p : Process α) (dated : p.Dated readings) : p.Dated (readings ++ more) := by
  cases p with
  | finished a time => trivial
  | running r => exact ⟨Program.dated_more readings more r.program r.book dated.1, dated.2⟩
  | waiting job =>
      cases job with
      | task t => exact dated
      | openUnit | onUnit | dropUnit | control => exact dated.elim

structure Turned (seen : List Stamp) (x : Process α × Store) : Prop where
  committed : x.2.committed.Sequenced seen
  dated : x.1.Dated seen

theorem resume_dated (r : Running α) (ordered : (readings ++ readingsFrom id r s).Pairwise (· ≤ ·))
    (committed : s.committed.Sequenced readings) (dated : (Process.running r).Dated readings) :
    Turned (readings ++ readingsFrom id r s) (resume crashed id r s) := by
  rw [readingsFrom, ← List.append_assoc] at ordered ⊢
  have kept := Program.run_kept readings id s r.program r.wait r.book (List.pairwise_append.mp ordered).1 committed dated.1
  rw [resume]
  generalize Store.run id r.program r.wait r.book s = x at ordered kept ⊢
  obtain ⟨stop, later⟩ := x
  cases stop with
  | finished a unit =>
      rw [List.append_nil]
      refine ⟨?_, trivial⟩
      change (close later r.keep unit).committed.Sequenced _
      rw [Store.close_committed]
      exact kept.committed
  | crashed e =>
      rw [List.append_nil]
      refine ⟨?_, trivial⟩
      change (later.withdraw id).committed.Sequenced _
      rw [Store.withdraw_committed]
      exact kept.committed
  | paused program wait unit =>
      cases due : r.deadline.filter fun d => d.after ≤ later.now with
      | none =>
          simp only [due, List.append_nil]
          exact ⟨kept.committed, kept.paused program wait unit rfl, dated.2⟩
      | some d =>
          obtain ⟨a, closes⟩ := dated.2 d (Option.eq_some_of_filter_eq_some due)
          obtain ⟨last, ran, same, _⟩ := run_closes id d.instead a .fresh none (later.withdraw id) closes
          simp only [due, closing_readings id (later.withdraw id) d.instead a closes .fresh none, List.append_nil, ran]
          refine ⟨?_, trivial⟩
          rw [stopped, Store.close_committed, same, Store.withdraw_committed]
          exact kept.committed

theorem poll_dated (p : Process α) (ordered : (readings ++ p.readings id s).Pairwise (· ≤ ·))
    (committed : s.committed.Sequenced readings) (dated : p.Dated readings) :
    Turned (readings ++ p.readings id s) (p.poll crashed id s) := by
  cases p with
  | finished a time => exact ⟨Book.sequenced_more readings _ _ committed, trivial⟩
  | running r => exact resume_dated readings id crashed s r ordered committed dated
  | waiting job =>
      cases job with
      | openUnit | onUnit | dropUnit | control => exact dated.elim
      | task t =>
          refine resume_dated readings id crashed s _ ordered committed ⟨.outside dated.1, ?_⟩
          intro d deadline
          obtain ⟨own, limited, rfl⟩ := Option.map_eq_some_iff.mp deadline
          exact dated.2 own limited

end Turns

end Process

end Order

end DoubleEntry
