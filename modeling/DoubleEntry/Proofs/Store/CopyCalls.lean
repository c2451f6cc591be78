import DoubleEntry.Proofs.Program.Always
import DoubleEntry.Proofs.Store.Place

/-!
The calls that a process makes on the copy of its unit of work, as they come in a turn. A program is safe if it makes no
others than are allowed on the copy they find, whatever fails, and if none of them is refused: then no turn of it makes any
other, nor does it panic.
-/

set_option autoImplicit false

namespace DoubleEntry

open Time (Stamp)

structure CopyCall where
  committed : Book
  copy : Book
  call : Call

variable {α : Type}

-- The calls on copies that are made where a program is run.
def Store.copyCalls (id : Nat) : Program α → Wait → Option Book → Store → List CopyCall
  | .done _, _, _, _ => []
  | .log line rest, _, book, s => copyCalls id rest .fresh book (s.logLine line)
  | .clock next, _, book, s => copyCalls id (next s.clock) .fresh book s
  | .call c next, wait, book, s =>
    match s.approach id c wait with
    | .failed e => copyCalls id (next (.error e)) .fresh (s.failed c book).1 (s.failed c book).2
    | .wait _ => []
    | .go =>
      (if c.isWork then [⟨s.committed, book.getD s.committed, c⟩] else []) ++
      match s.perform id book c with
      | .ok (reply, book, s) => copyCalls id (next reply) .fresh book s
      | .error _ => []

namespace Process

def copyCallsFrom (id : Nat) (r : Running α) (s : Store) : List CopyCall :=
  Store.copyCalls id r.program r.wait r.book s ++
  match Store.run id r.program r.wait r.book s with
  | (.paused _ _ _, s) =>
    match r.deadline.filter fun d => d.after ≤ s.now with
    | some d => Store.copyCalls id d.instead .fresh none (s.withdraw id)
    | none => []
  | _ => []

def copyCalls (id : Nat) (s : Store) : Process α → List CopyCall
  | waiting (.task t) =>
    copyCallsFrom id ⟨t.body, .fresh, none, none, t.deadline.map fun d => { d with after := s.now + d.after }⟩ s
  | running r => copyCallsFrom id r s
  | _ => []

end Process

/-- A unit of work: the book on which it began, and the copy that it has come to. -/
structure Begun where
  base : Book
  copy : Book

-- What is known of the books on which a unit of work begins, and the calls that may be made on its copy.
variable (good : Book → Prop) (allowed : Book → Book → Call → Prop)

/-- All calls are allowed on the copy that they find there, and none of them is refused. -/
def safety : Discipline Begun where
  begins u := good u.base ∧ u.copy = u.base
  mayRead _ := True
  read u _ := u
  allows u c := allowed u.base u.copy c ∧ ∃ result, u.copy.answer c = .ok result
  leads u c reply later :=
    (∃ e, reply = .error e) ∧ later = u ∨ ∃ copy, u.copy.answer c = .ok (reply, copy) ∧ later = ⟨u.base, copy⟩

namespace CopyCall

def Allowed (m : CopyCall) : Prop := ∃ base : Book, base.Extends m.committed ∧ allowed base m.copy m.call

-- The copy of a unit of work that began on books that are still there.
def Lasting (committed : Book) (u : Begun) (copy : Book) : Prop := u.copy = copy ∧ u.base.Extends committed

abbrev InPlace (s : Store) (p : Program α) (unit : Option Book) : Prop :=
  p.Placed (safety good allowed) (Lasting s.committed) unit

def Rests : Stop α × Store → Prop
  | (.finished _ _, _) => True
  | (.paused p _ unit, s) => InPlace good allowed s p unit
  | (.crashed _, _) => False

structure Resumes (s : Store) (p : Program α) (unit : Option Book) : Prop where
  place : InPlace good allowed s p unit
  fine : (∃ a, p.Closes a) ∨ good s.committed

section Runs

variable (id : Nat) (s : Store)

-- To a program it only matters what is committed, and that this is not taken back.
theorem in_place_later (p : Program α) (unit : Option Book) (later : Store) (grown : s.committed.Extends later.committed)
    (place : InPlace good allowed s p unit) : InPlace good allowed later p unit :=
  Program.placed_keeps _ _ _ (fun _ _ lasting => ⟨lasting.1, Book.extends_trans _ _ _ lasting.2 grown⟩) p unit place

theorem resumes_same (p : Program α) (unit : Option Book) (later : Store) (same : later.committed = s.committed)
    (fine : good s.committed) (place : p.Placed (safety good allowed) (Lasting s.committed) unit) :
    Resumes good allowed later p unit :=
  ⟨by rw [InPlace, same]; exact place, .inr (by rw [same]; exact fine)⟩

theorem log_safe (line : LogLine) (rest : Program α) (unit : Option Book)
    (resumes : Resumes good allowed s (.log line rest) unit) : Resumes good allowed (s.logLine line) rest unit := by
  refine ⟨Program.log_placed _ _ line rest unit resumes.place, ?_⟩
  rcases resumes.fine with ⟨a, closes⟩ | fine
  · cases closes with
    | log _ _ _ closes => exact .inl ⟨a, closes⟩
  · exact .inr fine

theorem clock_safe (next : Stamp → Program α) (now : Stamp) (unit : Option Book)
    (resumes : Resumes good allowed s (.clock next) unit) : Resumes good allowed s (next now) unit := by
  refine ⟨Program.clock_placed _ _ _ next now unit (fun _ _ _ lasting => lasting) resumes.place, ?_⟩
  rcases resumes.fine with ⟨a, closes⟩ | fine
  · cases closes
  · exact .inr fine

section Calls

variable (c : Call) (next : Except StoreError c.Reply → Program α) (unit : Option Book) (fine : good s.committed)
  (place : InPlace good allowed s (.call c next) unit)

include fine place

theorem failed_safe (e : StoreError) :
    Resumes good allowed (s.failed c unit).2 (next (.error e)) (s.failed c unit).1 := by
  obtain ⟨placed, same⟩ := Program.failed_placed _ _ s c next unit place e fun u => .inl ⟨⟨e, rfl⟩, rfl⟩
  exact resumes_same good allowed s _ _ _ same fine placed

theorem performed_safe :
    ∃ reply after later, s.perform id unit c = .ok (reply, after, later) ∧ Resumes good allowed later (next reply) after ∧
      (c.isWork = true → Allowed allowed ⟨s.committed, unit.getD s.committed, c⟩) := by
  have own : c.isWork = true → ∃ copy result, unit = some copy ∧ copy.answer c = .ok result ∧
      Allowed allowed ⟨s.committed, copy, c⟩ := by
    intro isWork
    obtain ⟨u, _, rfl, ⟨rfl, begun⟩, allowed, result, answer⟩ := Program.placed_allowed _ _ c next unit place isWork
    exact ⟨u.copy, result, rfl, answer, u.base, begun, allowed⟩
  have performs : ∃ reply after later, s.perform id unit c = .ok (reply, after, later) := by
    by_cases isWork : c.isWork = true
    · obtain ⟨copy, result, rfl, answer, _⟩ := own isWork
      rw [Store.perform_work s id (some copy) c isWork, Option.getD_some, answer]
      exact ⟨_, _, _, rfl⟩
    · cases c with
      | getAccount _ | listEntries _ | begin | commit | rollback => exact ⟨_, _, _, rfl⟩
      | getAccounts _ | createAccount _ | debit _ _ _ | credit _ _ _ | append _ => exact absurd rfl isWork
  obtain ⟨reply, after, later, performed⟩ := performs
  refine ⟨reply, after, later, performed, ?_, fun isWork => ?_⟩
  · have keeps : ∀ u copy reply mid, Lasting s.committed u copy → (safety good allowed).allows u c →
        copy.answer c = .ok (reply, mid) →
        ∃ other, (safety good allowed).leads u c reply other ∧ Lasting s.committed other mid := by
      rintro u _ reply mid ⟨rfl, begun⟩ _ answer
      exact ⟨⟨u.base, mid⟩, .inr ⟨mid, answer, rfl⟩, rfl, begun⟩
    obtain ⟨placed, same | ⟨rfl, closes, _⟩⟩ := Program.performed_placed _ _ s c next unit place id
      ⟨⟨s.committed, s.committed⟩, ⟨fine, rfl⟩, rfl, Book.extends_refl _⟩ keeps reply after later performed
    · exact resumes_same good allowed s _ _ _ same fine placed
    · exact ⟨Program.placed_closing _ _ _ closes, .inl closes⟩
  · obtain ⟨copy, _, rfl, _, allowed⟩ := own isWork
    exact allowed

end Calls

theorem closing_copy_calls (p : Program α) (a : α) (closes : p.Closes a) (wait : Wait) (unit : Option Book) :
    Store.copyCalls id p wait unit s = [] ∧ ∃ left later, Store.run id p wait unit s = (.finished a left, later) := by
  induction closes generalizing wait unit s with
  | done a => exact ⟨rfl, unit, s, rfl⟩
  | log line rest a _ ih => exact ih (s.logLine line) .fresh unit

theorem run_safe (p : Program α) (wait : Wait) (unit : Option Book) (resumes : Resumes good allowed s p unit) :
    (∀ m ∈ Store.copyCalls id p wait unit s, m.Allowed allowed) ∧ Rests good allowed (Store.run id p wait unit s) := by
  -- On the program. Between its calls it is in its place, on the same or on longer books.
  induction p generalizing s wait unit with
  | done a => exact ⟨List.forall_mem_nil _, trivial⟩
  | log line rest ih => exact ih _ .fresh unit (log_safe good allowed s line rest unit resumes)
  | clock next ih => exact ih s.clock s .fresh unit (clock_safe good allowed s next s.clock unit resumes)
  | call c next ih =>
      have fine : good s.committed := by
        rcases resumes.fine with ⟨a, closes⟩ | fine
        · cases closes
        · exact fine
      rw [Store.copyCalls, Store.run]
      cases admission : s.approach id c wait with
      | failed e => exact ih (.error e) _ _ _ (failed_safe good allowed s c next unit fine resumes.place e)
      | wait later =>
          have kept : s.committed.Extends (s.enqueue id later).committed := by
            rw [Store.enqueue_committed]
            exact Book.extends_refl _
          exact ⟨List.forall_mem_nil _, in_place_later good allowed s _ unit _ kept resumes.place⟩
      | go =>
          obtain ⟨reply, after, later, performed, goesOn, own⟩ :=
            performed_safe good allowed id s c next unit fine resumes.place
          obtain ⟨rest, stops⟩ := ih reply later .fresh after goesOn
          simp only [performed]
          refine ⟨?_, stops⟩
          intro m member
          rcases List.mem_append.mp member with here | there
          · by_cases isWork : c.isWork = true
            · rw [if_pos isWork, List.mem_singleton] at here
              rw [here]
              exact own isWork
            · rw [if_neg isWork] at here
              cases here
          · exact rest m there

end Runs

section Turns

variable (P : α → Prop) (id : Nat) (crashed : ArithmeticError → α) (s : Store)

-- A process that is safe on all its way, also past its deadline, and comes to no answers but those that it may give.
inductive Ready (s : Store) : Process α → Prop
  | waiting (t : Task α) (safe : t.body.Follows (safety good allowed)) (answers : t.Always True P)
      (closes : ∀ d, t.deadline = some d → ∃ a, d.instead.Closes a) : Ready s (.waiting (.task t))
  | running (r : Running α) (place : InPlace good allowed s r.program r.book) (answers : (Process.running r).Always True P)
      (closes : ∀ d, r.deadline = some d → ∃ a, d.instead.Closes a) : Ready s (.running r)
  | finished (a : α) (time : Nat) (own : P a) : Ready s (.finished a time)

theorem ready_later (p : Process α) (later : Store) (grown : s.committed.Extends later.committed)
    (ready : Ready good allowed P s p) : Ready good allowed P later p := by
  cases ready with
  | waiting t safe answers closes => exact .waiting t safe answers closes
  | running r place answers closes =>
      exact .running r (in_place_later good allowed s _ _ later grown place) answers closes
  | finished a time own => exact .finished a time own

theorem resume_safe (fine : good s.committed) (r : Running α) (place : InPlace good allowed s r.program r.book)
    (answers : (Process.running r).Always True P) (closes : ∀ d, r.deadline = some d → ∃ a, d.instead.Closes a) :
    (∀ m ∈ Process.copyCallsFrom id r s, m.Allowed allowed) ∧
      Ready good allowed P (Process.resume crashed id r s).2 (Process.resume crashed id r s).1 := by
  obtain ⟨those, rests⟩ := run_safe good allowed id s r.program r.wait r.book ⟨place, .inr fine⟩
  have ran := run_always True P id r.program answers.1 r.wait r.book s
  rw [Process.copyCallsFrom, Process.resume]
  generalize Store.run id r.program r.wait r.book s = x at rests ran
  obtain ⟨stop, later⟩ := x
  cases stop with
  | crashed e => exact rests.elim
  | finished a unit =>
      rw [List.append_nil]
      exact ⟨those, .finished a _ ran⟩
  | paused program wait unit =>
      cases due : r.deadline.filter fun d => d.after ≤ later.now with
      | none =>
          simp only [due, List.append_nil]
          exact ⟨those, .running _ rests ⟨ran, answers.2⟩ closes⟩
      | some d =>
          have deadline := Option.eq_some_of_filter_eq_some due
          obtain ⟨a, closing⟩ := closes d deadline
          obtain ⟨silent, unit, left, stopped⟩ := closing_copy_calls id (later.withdraw id) d.instead a closing .fresh none
          have told := run_always True P id d.instead (answers.2 d deadline) .fresh none (later.withdraw id)
          rw [stopped] at told
          simp only [due, silent, List.append_nil, stopped]
          exact ⟨those, .finished a _ told⟩

theorem poll_safe (fine : good s.committed) (p : Process α) (ready : Ready good allowed P s p) :
    (∀ m ∈ p.copyCalls id s, m.Allowed allowed) ∧ Ready good allowed P (p.poll crashed id s).2 (p.poll crashed id s).1 := by
  cases ready with
  | finished a time own => exact ⟨nofun, .finished a time own⟩
  | running r place answers closes => exact resume_safe good allowed P id crashed s fine r place answers closes
  | waiting t safe answers closes =>
      have sooner : ∀ d, (t.deadline.map fun d => { d with after := s.now + d.after }) = some d →
          ∃ own, t.deadline = some own ∧ d.instead = own.instead := by
        intro d deadline
        obtain ⟨own, limited, rfl⟩ := Option.map_eq_some_iff.mp deadline
        exact ⟨own, limited, rfl⟩
      apply resume_safe good allowed P id crashed s fine _ (.outside safe) ⟨answers.body, ?_⟩
      · intro d deadline
        obtain ⟨own, limited, same⟩ := sooner d deadline
        rw [same]
        exact closes own limited
      · intro d deadline
        obtain ⟨own, limited, same⟩ := sooner d deadline
        rw [same]
        exact answers.instead own limited

end Turns

end CopyCall

end DoubleEntry
