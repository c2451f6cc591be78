import DoubleEntry.Proofs.History.Growth
import DoubleEntry.Proofs.Program.Always
import Mathlib.Data.List.Induction

/-!
What is kept of every process of a history, whatever happens in it: what is so of a demand that comes in, is not undone by
what others do to the books, and lasts through turns, up to the answer. So what is so of every answer that a demand can
be given by itself is so of every answer that it is given in a history.
-/

set_option autoImplicit false

namespace DoubleEntry.History

open Session (Answer)

/-- What is kept of processes on stores that are fine, and what is known of their answers by it. -/
structure Invariant (fine : Store → Prop) (I : Store → Demand → Process Answer → Prop) (P : Demand → Answer → Prop) :
    Prop where
  asked : ∀ s d limit, I s d (.waiting (.task (d.task limit)))
  later : ∀ (s later : Store) d p, s.committed.Extends later.committed → I s d p → I later d p
  turn : ∀ id s d p, fine s → p.isFinished = false → I s d p →
    match p.poll Answer.refused id s with
    | (.finished a _, _) => P d a
    | (q, later) => I later d q

section Events

variable (fine : Store → Prop) (I : Store → Demand → Process Answer → Prop) (P : Demand → Answer → Prop)

structure Allowed (h : History) : Prop where
  count : h.demands.length = h.system.processes.length
  pending : ∀ (id : Nat) (d : Demand) (started : Nat) (p : Process Answer), h.demands[id]? = some (d, started) →
    h.system.processes[id]? = some p → p.isFinished = false → I h.system.store d p
  records : ∀ record ∈ h.records, P record.demand record.answer

theorem start_allowed (start : Store) : Allowed I P (run start []) := by
  refine ⟨rfl, ?_, ?_⟩
  · intro id d started p asked
    cases asked
  · intro record member
    cases member

variable (invariant : Invariant fine I P) (h : History) (allowed : Allowed I P h)

include invariant

theorem allowed_later (later : Store) (grown : h.system.store.committed.Extends later.committed) (moment : Nat)
    (allowed : Allowed I P h) : Allowed I P { h with system := { h.system with store := later }, moment } :=
  ⟨allowed.count, fun id d started p asked found unfinished =>
    invariant.later _ _ d p grown (allowed.pending id d started p asked found unfinished), allowed.records⟩

include allowed

theorem set_pending (id : Nat) (q : Process Answer) (later : Store)
    (grown : h.system.store.committed.Extends later.committed) (other : Nat) (d : Demand) (started : Nat)
    (p : Process Answer)
    (kept : ∀ d started, h.demands[id]? = some (d, started) → q.isFinished = false → I later d q)
    (asked : h.demands[other]? = some (d, started)) (found : (h.system.processes.set id q)[other]? = some p)
    (unfinished : p.isFinished = false) : I later d p := by
  by_cases same : id = other
  · subst same
    have bound : id < h.system.processes.length := by
      rw [← allowed.count]
      exact (List.getElem?_eq_some_iff.mp asked).1
    rw [List.getElem?_set_self bound] at found
    cases found
    exact kept d started asked unfinished
  · rw [List.getElem?_set_ne same] at found
    exact invariant.later _ _ d p grown (allowed.pending other d started p asked found unfinished)

theorem ask_allowed (limit : Option Nat) (d : Demand) : Allowed I P (h.step (.ask limit d)) := by
  refine ⟨?_, ?_, allowed.records⟩
  · simp only [step, List.length_append, List.length_singleton, allowed.count]
  · intro id asker started p asked found unfinished
    rcases found_last _ _ _ id asked with oldAsked | ⟨place, new⟩
    · rcases found_last _ _ _ id found with old | ⟨place, _⟩
      · exact allowed.pending id asker started p oldAsked old unfinished
      · rw [place, ← allowed.count, List.getElem?_eq_none (Nat.le_refl _)] at oldAsked
        cases oldAsked
    · simp only [step] at found
      rw [place, allowed.count, List.getElem?_concat_length] at found
      cases new
      cases found
      exact invariant.asked _ d limit

-- A poll in vain.
omit invariant in
theorem idle_allowed (id : Nat) (same : h.system.step Answer.refused id = h.system) (nobody : h.answered id = []) :
    Allowed I P (h.step (.poll id)) := by
  have stepped : h.step (.poll id) = { h with moment := h.moment + 1 } := by
    simp only [step, same, nobody, List.append_nil]
  rw [stepped]
  exact ⟨allowed.count, allowed.pending, allowed.records⟩

theorem turn_allowed (id : Nat) (here : fine h.system.store)
    (grown : h.system.store.committed.Extends (h.system.step Answer.refused id).store.committed) (p : Process Answer)
    (found : h.system.processes[id]? = some p) (unfinished : p.isFinished = false) (d : Demand) (started : Nat)
    (asked : h.demands[id]? = some (d, started)) : Allowed I P (h.step (.poll id)) := by
  obtain ⟨turn, record⟩ := poll_step h id d started p asked found
  have polled := invariant.turn id h.system.store d p here unfinished
    (allowed.pending id d started p asked found unfinished)
  rw [turn] at grown
  generalize p.poll Answer.refused id h.system.store = x at turn record polled grown
  obtain ⟨q, later⟩ := x
  refine ⟨?_, ?_, ?_⟩
  · simp only [step, turn, List.length_set, allowed.count]
  · intro other asker since r askedOther foundOther going
    simp only [step, turn] at askedOther foundOther ⊢
    refine set_pending fine I P invariant h allowed id q later grown other asker since r ?_ askedOther foundOther going
    intro own _ same goesOn
    rw [asked] at same
    cases same
    cases q with
    | finished a time => cases goesOn
    | waiting job | running r => exact polled
  · intro r member
    rcases List.mem_append.mp member with old | new
    · exact allowed.records r old
    · rw [record] at new
      cases q with
      | waiting job | running r => cases new
      | finished a time =>
          simp only [unfinished, Bool.false_eq_true, if_false, List.mem_singleton] at new
          subst new
          exact polled

theorem poll_allowed (id : Nat) (here : fine h.system.store)
    (grown : h.system.store.committed.Extends (h.system.step Answer.refused id).store.committed) :
    Allowed I P (h.step (.poll id)) := by
  cases found : h.system.processes[id]? with
  | none =>
      refine idle_allowed I P h allowed id (by simp only [System.step, found]) ?_
      rw [answered, found]
  | some p =>
      have bound : id < h.demands.length := by
        rw [allowed.count]
        exact (List.getElem?_eq_some_iff.mp found).1
      cases finished : p.isFinished with
      | false =>
          exact turn_allowed fine I P invariant h allowed id here grown p found finished _ _ (List.getElem?_eq_getElem bound)
      | true =>
          cases p with
          | waiting job | running r => cases finished
          | finished a time =>
              obtain ⟨same, nobody⟩ := poll_finished h id a time found
              exact idle_allowed I P h allowed id same nobody

theorem drop_allowed (id : Nat) : Allowed I P (h.step (.drop id)) := by
  have unchanged : dropped id h.system = h.system → Allowed I P (h.step (.drop id)) := by
    intro same
    simp only [step, same]
    exact ⟨allowed.count, allowed.pending, allowed.records⟩
  cases found : h.system.processes[id]? with
  | none => exact unchanged (by simp only [dropped, found])
  | some p =>
      cases finished : p.isFinished with
      | true =>
          cases p with
          | waiting job | running r => cases finished
          | finished a time => exact unchanged (drop_finished h id a time found)
      | false =>
          have kept := Store.abandon_committed h.system.store id p
          have grown : h.system.store.committed.Extends (p.abandon h.system.store id).committed := by
            rw [kept]
            exact Book.extends_refl _
          simp only [step, drop_step h id p found finished]
          refine ⟨?_, ?_, allowed.records⟩
          · simp only [List.length_set, allowed.count]
          · intro other d started q asked there unfinished
            refine set_pending fine I P invariant h allowed id _ _ grown other d started q ?_ asked there unfinished
            exact fun _ _ _ impossible => by cases impossible

end Events

/-- Whatever is an invariant is kept in every history. -/
theorem run_allowed (fine : Store → Prop) (I : Store → Demand → Process Answer → Prop) (P : Demand → Answer → Prop)
    (invariant : Invariant fine I P) (start : Store) (always : ∀ events, fine (run start events).system.store)
    (events : List Event) : Allowed I P (run start events) := by
  induction events using List.reverseRecOn with
  | nil => exact start_allowed I P start
  | append_singleton events e ih =>
      have grown := books_grow start events e
      rw [books, books, run_append] at grown
      rw [run_append]
      cases e with
      | ask limit d => exact ask_allowed fine I P invariant _ ih limit d
      | poll id => exact poll_allowed fine I P invariant _ ih id (always events) grown
      | drop id => exact drop_allowed fine I P invariant _ ih id
      | advance time | tick now | control change => exact allowed_later fine I P invariant _ _ grown _ ih

/-- Answers in histories are answers that the programs can give. -/
theorem records_always (panics : Demand → Prop) (P : Demand → Answer → Prop)
    (always : ∀ (d : Demand) (limit : Option Nat), (d.task limit).Always (panics d) (P d))
    (told : ∀ d, panics d → ∀ e, P d (.refused e)) (start : Store) (events : List Event) :
    ∀ record ∈ (run start events).records, P record.demand record.answer := by
  have invariant : Invariant (fun _ => True) (fun _ d p => p.Always (panics d) (P d)) P := by
    refine ⟨fun _ d limit => always d limit, fun _ _ _ _ _ => id, ?_⟩
    intro id s d p _ _ own
    have polled := poll_always (panics d) (P d) id Answer.refused (told d) p s own
    generalize p.poll Answer.refused id s = x at polled
    obtain ⟨q, later⟩ := x
    cases q with
    | finished a time => exact polled
    | waiting job | running r => exact polled
  exact (run_allowed _ _ P invariant start (fun _ => trivial) events).records

theorem request_always (r : Http.Request) (P : Http.Response → Prop)
    (always : ∀ limit, (Http.handle limit r).Always True P) (start : Store) (events : List Event) (record : Record)
    (member : record ∈ (run start events).records) (demand : record.demand = .request r) (x : Http.Response)
    (answer : record.answer = .response x) : P x := by
  refine records_always (fun _ => True) (fun d a => d = .request r → ∀ x, a = .response x → P x) ?_ ?_ start events record
    member demand x answer
  · intro d limit
    by_cases same : d = .request r
    · subst same
      refine task_always_map True P _ Answer.response ?_ _ (always limit)
      rintro x own _ _ ⟨⟩
      exact own
    · exact task_always_any _ _ trivial (fun a own => absurd own same) _
  · intro d _ e _ x impossible
    cases impossible

end DoubleEntry.History
