import DoubleEntry.Proofs.Program.Play
import DoubleEntry.Store.Process

/-!
What is so of every answer that a program can give, whatever its calls are replied, whatever the clock shows and
wherever it is cut off. A store may panic of a call, so a program that makes one has to allow for that as well.
-/

set_option autoImplicit false

namespace DoubleEntry

namespace Program

variable {α β : Type}

def Always (panics : Prop) (P : α → Prop) : Program α → Prop
  | .done a => P a
  | .log _ rest => rest.Always panics P
  | .clock next => ∀ now, (next now).Always panics P
  | .call _ next => panics ∧ ∀ reply, (next reply).Always panics P

theorem always_mono (panics worse : Prop) (P Q : α → Prop) (allowed : panics → worse) (weaker : ∀ a, P a → Q a)
    (p : Program α) (always : p.Always panics P) : p.Always worse Q := by
  induction p with
  | done a => exact weaker a always
  | log line rest ih => exact ih always
  | clock next ih => exact fun now => ih now (always now)
  | call c next ih => exact ⟨allowed always.1, fun reply => ih reply (always.2 reply)⟩

theorem always_any (panics : Prop) (P : α → Prop) (allowed : panics) (every : ∀ a, P a) (p : Program α) :
    p.Always panics P := by
  induction p with
  | done a => exact every a
  | log line rest ih => exact ih
  | clock next ih => exact ih
  | call c next ih => exact ⟨allowed, ih⟩

theorem always_closes (panics : Prop) (P : α → Prop) (p : Program α) (a : α) (closes : p.Closes a) (own : P a) :
    p.Always panics P := by
  induction closes with
  | done a => exact own
  | log line rest a _ ih => exact ih own

theorem always_bind (panics : Prop) (P : α → Prop) (Q : β → Prop) (f : α → Program β)
    (next : ∀ a, P a → (f a).Always panics Q) (p : Program α) (always : p.Always panics P) :
    (p.bind f).Always panics Q := by
  induction p with
  | done a => exact next a always
  | log line rest ih => exact ih always
  | clock later ih => exact fun now => ih now (always now)
  | call c later ih => exact ⟨always.1, fun reply => ih reply (always.2 reply)⟩

theorem play_always {σ : Type} (store : AnyStore σ) (panics : Prop) (P : α → Prop) (p : Program α)
    (always : p.Always panics P) (s : σ) : P (p.play store s).answer := by
  induction p generalizing s with
  | done a => exact always
  | log line rest ih => exact ih always s
  | clock next ih => exact ih _ (always _) _
  | call c next ih => exact ih _ (always.2 _) _

end Program

variable {α β : Type}

structure Task.Always (panics : Prop) (P : α → Prop) (t : Task α) : Prop where
  body : t.body.Always panics P
  instead : ∀ d, t.deadline = some d → d.instead.Always panics P

theorem unlimited_always (panics : Prop) (P : α → Prop) (p : Program α) (always : p.Always panics P) :
    (Task.unlimited p).Always panics P :=
  ⟨always, fun _ impossible => by cases impossible⟩

theorem task_always_any (panics : Prop) (P : α → Prop) (allowed : panics) (every : ∀ a, P a) (t : Task α) :
    t.Always panics P :=
  ⟨Program.always_any panics P allowed every _, fun _ _ => Program.always_any panics P allowed every _⟩

theorem task_always_mono (panics : Prop) (P Q : α → Prop) (weaker : ∀ a, P a → Q a) (t : Task α)
    (always : t.Always panics P) : t.Always panics Q :=
  ⟨Program.always_mono panics panics P Q id weaker _ always.body, fun d deadline =>
    Program.always_mono panics panics P Q id weaker _ (always.instead d deadline)⟩

theorem task_always_bind (panics : Prop) (P : α → Prop) (Q : β → Prop) (f : α → Program β)
    (next : ∀ a, P a → (f a).Always panics Q) (t : Task α) (always : t.Always panics P) :
    (t.bind f).Always panics Q := by
  refine ⟨Program.always_bind panics P Q f next t.body always.body, ?_⟩
  intro d deadline
  obtain ⟨own, limited, rfl⟩ := Option.map_eq_some_iff.mp deadline
  exact Program.always_bind panics P Q f next own.instead (always.instead own limited)

theorem task_always_map (panics : Prop) (P : α → Prop) (Q : β → Prop) (f : α → β) (next : ∀ a, P a → Q (f a))
    (t : Task α) (always : t.Always panics P) : (t.map f).Always panics Q :=
  task_always_bind panics P Q (fun a => .done (f a)) next t always

def Stop.Always (panics : Prop) (P : α → Prop) : Stop α → Prop
  | .finished a _ => P a
  | .paused program _ _ => program.Always panics P
  | .crashed _ => panics

def Process.Always (panics : Prop) (P : α → Prop) : Process α → Prop
  | .waiting (.task t) => t.Always panics P
  | .waiting _ => False
  | .running r => r.program.Always panics P ∧ ∀ d, r.deadline = some d → d.instead.Always panics P
  | .finished a _ => P a

section Turns

variable (panics : Prop) (P : α → Prop) (id : Nat)

theorem run_always (p : Program α) (always : p.Always panics P) (wait : Wait) (book : Option Book) (s : Store) :
    (Store.run id p wait book s).1.Always panics P := by
  induction p generalizing wait book s with
  | done a => exact always
  | log line rest ih => exact ih always _ _ _
  | clock next ih => exact ih _ (always _) _ _ _
  | call c next ih =>
      rw [Store.run]
      cases s.approach id c wait with
      | failed e => exact ih _ (always.2 _) _ _ _
      | wait wait => exact always
      | go =>
          cases s.perform id book c with
          | ok result => exact ih _ (always.2 _) _ _ _
          | error e => exact always.1

variable (crashed : ArithmeticError → α) (told : panics → ∀ e, P (crashed e))

include told

theorem stopped_always (keep : Option String) (deadline : Option (Deadline α)) (x : Stop α × Store)
    (always : x.1.Always panics P) (instead : ∀ d, deadline = some d → d.instead.Always panics P) :
    (Process.stopped crashed id keep deadline x).1.Always panics P := by
  obtain ⟨stop, s⟩ := x
  cases stop with
  | finished a book => exact always
  | crashed e => exact told always e
  | paused program wait book => exact ⟨always, instead⟩

theorem resume_always (r : Running α) (s : Store) (always : (Process.running r).Always panics P) :
    (Process.resume crashed id r s).1.Always panics P := by
  have ran := run_always panics P id r.program always.1 r.wait r.book s
  rw [Process.resume]
  generalize Store.run id r.program r.wait r.book s = x at ran
  obtain ⟨stop, later⟩ := x
  cases stop with
  | finished a book => exact ran
  | crashed e => exact told ran e
  | paused program wait book =>
      cases due : r.deadline.filter fun d => d.after ≤ later.now with
      | none =>
          simp only [due]
          exact ⟨ran, always.2⟩
      | some d =>
          have instead := always.2 d (Option.eq_some_of_filter_eq_some due)
          simp only [due]
          exact stopped_always panics P id crashed told none none _
            (run_always panics P id d.instead instead .fresh none _) fun _ impossible => by cases impossible

theorem poll_always (p : Process α) (s : Store) (always : p.Always panics P) :
    (p.poll crashed id s).1.Always panics P := by
  cases p with
  | finished a time => exact always
  | running r => exact resume_always panics P id crashed told r s always
  | waiting job =>
      cases job with
      | openUnit | onUnit | dropUnit | control => exact always.elim
      | task t =>
          refine resume_always panics P id crashed told _ s ⟨always.body, ?_⟩
          intro d deadline
          obtain ⟨own, limited, rfl⟩ := Option.map_eq_some_iff.mp deadline
          exact always.instead own limited

end Turns

end DoubleEntry
