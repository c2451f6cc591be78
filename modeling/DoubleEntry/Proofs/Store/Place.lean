import DoubleEntry.Proofs.Program.Discipline
import DoubleEntry.Proofs.Store.Turn

/-!
Where a program stands on a store: outside of a unit of work, or in one that has a copy of the books. What its discipline
has to do with that copy is a relation that each step has to keep.
-/

set_option autoImplicit false

namespace DoubleEntry

open Time (Stamp)

variable {α σ : Type} (d : Discipline σ) (holds : σ → Book → Prop)

namespace Program

inductive Placed (p : Program α) : Option Book → Prop
  | outside (follows : p.Follows d) : Placed p none
  | inside (state : σ) (copy : Book) (held : holds state copy) (follows : p.FollowsIn d state) : Placed p (some copy)

theorem placed_closing (p : Program α) (closes : ∃ a, p.Closes a) : p.Placed d holds none := by
  obtain ⟨a, closing⟩ := closes
  exact .outside (.closes p a closing)

theorem placed_keeps (other : σ → Book → Prop) (keeps : ∀ state copy, holds state copy → other state copy)
    (p : Program α) (unit : Option Book) (placed : p.Placed d holds unit) : p.Placed d other unit := by
  cases placed with
  | outside follows => exact .outside follows
  | inside state copy held follows => exact .inside state copy (keeps state copy held) follows

theorem log_placed (line : LogLine) (rest : Program α) (unit : Option Book)
    (placed : (log line rest).Placed d holds unit) : rest.Placed d holds unit := by
  cases placed with
  | outside follows => exact .outside (log_follows d line rest follows)
  | inside state copy held follows =>
      cases follows with
      | log _ _ _ follows => exact .inside state copy held follows

theorem clock_placed (other : σ → Book → Prop) (next : Stamp → Program α) (now : Stamp) (unit : Option Book)
    (keeps : ∀ state copy, d.mayRead state → holds state copy → other (d.read state now) copy)
    (placed : (clock next).Placed d holds unit) : (next now).Placed d other unit := by
  cases placed with
  | outside follows =>
      cases follows with
      | closes _ a closes => cases closes
  | inside state copy held follows =>
      cases follows with
      | clock _ _ may follows => exact .inside _ copy (keeps state copy may held) (follows now)

section Calls

variable (s : Store) (c : Call) (next : Except StoreError c.Reply → Program α) (unit : Option Book)
  (placed : (call c next).Placed d holds unit)

include placed

theorem failed_placed (e : StoreError) (stays : ∀ state, d.leads state c (.error e) state) :
    (next (.error e)).Placed d holds (s.failed c unit).1 ∧ (s.failed c unit).2.committed = s.committed := by
  cases placed with
  | outside follows =>
      cases follows with
      | closes _ a closes => cases closes
      | read _ _ isRead follows =>
          have goesOn : c.isEnd = false := by
            cases c <;> first | rfl | cases isRead
          rw [Store.failed, goesOn, if_neg Bool.false_ne_true]
          exact ⟨.outside (follows (.error e)), rfl⟩
      | begin _ _ failing => exact ⟨placed_closing d holds _ (failing e), rfl⟩
  | inside state copy held follows =>
      cases follows with
      | work _ _ _ isWork _ follows =>
          rw [Store.failed, (work_neither_reads_nor_ends c isWork).2, if_neg Bool.false_ne_true]
          exact ⟨.inside state copy held (follows (.error e) state (stays state)), rfl⟩
      | ends _ _ _ isEnd closes =>
          rw [Store.failed, if_pos isEnd]
          exact ⟨placed_closing d holds _ (closes (.error e)), Store.release_committed s⟩

theorem placed_allowed (isWork : c.isWork = true) : ∃ state copy, unit = some copy ∧ holds state copy ∧ d.allows state c := by
  obtain ⟨noRead, noEnd⟩ := work_neither_reads_nor_ends c isWork
  cases placed with
  | outside follows =>
      cases follows with
      | closes _ a closes => cases closes
      | read _ _ isRead _ => exact absurd (noRead.symm.trans isRead) Bool.false_ne_true
      | begin _ _ _ => cases isWork
  | inside state copy held follows =>
      cases follows with
      | work _ _ _ _ allowed _ => exact ⟨state, copy, rfl, held, allowed⟩
      | ends _ _ _ isEnd _ => exact absurd (noEnd.symm.trans isEnd) Bool.false_ne_true

-- A call leaves what is committed as it is, or it has committed the copy, and the program is over.
theorem performed_placed (id : Nat) (begins : ∃ state, d.begins state ∧ holds state s.committed)
    (keeps : ∀ state copy reply mid, holds state copy → d.allows state c → copy.answer c = .ok (reply, mid) →
      ∃ later, d.leads state c reply later ∧ holds later mid)
    (reply : Except StoreError c.Reply) (after : Option Book) (later : Store)
    (performed : s.perform id unit c = .ok (reply, after, later)) :
    (next reply).Placed d holds after ∧
      (later.committed = s.committed ∨
        after = none ∧ (∃ a, (next reply).Closes a) ∧ ∃ state, holds state later.committed) := by
  cases placed with
  | outside follows =>
      cases follows with
      | closes _ a closes => cases closes
      | begin _ inside _ =>
          obtain ⟨state, starts, held⟩ := begins
          cases performed
          exact ⟨.inside state s.committed held (inside state starts), .inl rfl⟩
      | read _ _ isRead follows =>
          cases c with
          | getAccount _ | listEntries _ =>
              cases performed
              exact ⟨.outside (follows _), .inl (Store.release_committed _)⟩
          | begin | getAccounts _ | createAccount _ | debit _ _ _ | credit _ _ _ | append _ | commit | rollback =>
              cases isRead
  | inside state copy held follows =>
      cases follows with
      | work _ _ _ isWork allowed follows =>
          rw [Store.perform_work s id (some copy) c isWork, Option.getD_some] at performed
          cases answered : copy.answer c with
          | error e =>
              rw [answered] at performed
              cases performed
          | ok result =>
              rw [answered] at performed
              cases performed
              obtain ⟨mid, leads, still⟩ := keeps state copy _ _ held allowed answered
              exact ⟨.inside mid _ still (follows _ mid leads), .inl rfl⟩
      | ends _ _ _ isEnd closes =>
          cases c with
          | commit =>
              cases performed
              refine ⟨placed_closing d holds _ (closes _), .inr ⟨rfl, closes _, state, ?_⟩⟩
              rw [Store.release_committed]
              exact held
          | rollback =>
              cases performed
              exact ⟨placed_closing d holds _ (closes _), .inl (Store.release_committed _)⟩
          | getAccount _ | listEntries _ | begin | getAccounts _ | createAccount _ | debit _ _ _ | credit _ _ _
          | append _ => cases isEnd

end Calls

end Program

end DoubleEntry
