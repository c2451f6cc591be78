import DoubleEntry.Proofs.History.Sound

/-!
The records of a history are its answers: one for each process that has come to an answer, with that answer.
-/

set_option autoImplicit false

namespace DoubleEntry.History

open Session (Answer)

structure Told (h : History) : Prop where
  done : ∀ r ∈ h.records, ∃ time, h.system.processes[r.id]? = some (.finished r.answer time)
  once : (h.records.map Record.id).Nodup
  all : ∀ (id : Nat) (a : Answer) (time : Nat), h.system.processes[id]? = some (.finished a time) →
    a ≠ .blocked → ∃ r ∈ h.records, r.id = id ∧ r.answer = a

theorem told_same (h next : History) (told : Told h) (processes : next.system.processes = h.system.processes)
    (records : next.records = h.records) : Told next := by
  refine ⟨?_, ?_, ?_⟩
  · rw [processes, records]
    exact told.done
  · rw [records]
    exact told.once
  · rw [processes, records]
    exact told.all

theorem told_set (h next : History) (told : Told h) (id : Nat) (p q : Process Answer)
    (found : h.system.processes[id]? = some p) (unfinished : p.isFinished = false) (news : List Record)
    (processes : next.system.processes = h.system.processes.set id q) (records : next.records = h.records ++ news)
    (matching : (news = [] ∧ ∀ a time, q = .finished a time → a = .blocked) ∨
      ∃ r time, news = [r] ∧ r.id = id ∧ q = .finished r.answer time) : Told next := by
  have bound : id < h.system.processes.length := (List.getElem?_eq_some_iff.mp found).1
  have elsewhere : ∀ r ∈ h.records, id ≠ r.id := by
    intro r member same
    obtain ⟨time, done⟩ := told.done r member
    rw [← same, found] at done
    cases done
    cases unfinished
  refine ⟨?_, ?_, ?_⟩
  · intro r member
    rw [processes]
    rw [records, List.mem_append] at member
    rcases member with old | new
    · rw [List.getElem?_set_ne (elsewhere r old)]
      exact told.done r old
    · rcases matching with ⟨none, _⟩ | ⟨added, time, one, rfl, finished⟩
      · rw [none] at new
        cases new
      · rw [one, List.mem_singleton] at new
        subst new
        exact ⟨time, by rw [List.getElem?_set_self bound, finished]⟩
  · rw [records, List.map_append]
    rcases matching with ⟨none, _⟩ | ⟨added, time, one, rfl, _⟩
    · rw [none, List.map_nil, List.append_nil]
      exact told.once
    · rw [one, List.map_singleton, List.nodup_append]
      refine ⟨told.once, List.pairwise_singleton _ _, ?_⟩
      intro old oldMember new newMember same
      obtain ⟨r, member, rfl⟩ := List.mem_map.mp oldMember
      rw [List.mem_singleton.mp newMember] at same
      exact elsewhere r member same.symm
  · intro other a time done notBlocked
    rw [processes] at done
    rw [records]
    by_cases same : id = other
    · subst same
      rw [List.getElem?_set_self bound] at done
      cases done
      rcases matching with ⟨_, blocked⟩ | ⟨added, _, one, rfl, finished⟩
      · exact absurd (blocked a time rfl) notBlocked
      · cases finished
        exact ⟨added, by rw [one]; simp, rfl, rfl⟩
    · rw [List.getElem?_set_ne same] at done
      obtain ⟨r, member, fits⟩ := told.all other a time done notBlocked
      exact ⟨r, List.mem_append_left _ member, fits⟩

theorem told_ask (h : History) (told : Told h) (limit : Option Nat) (d : Demand) : Told (h.step (.ask limit d)) := by
  refine ⟨?_, told.once, ?_⟩
  · intro r member
    obtain ⟨time, done⟩ := told.done r member
    refine ⟨time, ?_⟩
    rw [step, List.getElem?_append_left (List.getElem?_eq_some_iff.mp done).1]
    exact done
  · intro id a time done notBlocked
    rw [step] at done
    rcases found_last _ _ _ id done with old | ⟨_, new⟩
    · exact told.all id a time old notBlocked
    · cases new

theorem told_poll (h : History) (told : Told h) (count : h.demands.length = h.system.processes.length) (id : Nat) :
    Told (h.step (.poll id)) := by
  cases found : h.system.processes[id]? with
  | none =>
      refine told_same h _ told ?_ ?_
      · simp only [step, System.step, found]
      · simp only [step, answered]
        rw [found]
        exact List.append_nil _
  | some p =>
      cases finished : p.isFinished with
      | true =>
          cases p with
          | waiting job | running r => cases finished
          | finished a time =>
              obtain ⟨same, none⟩ := poll_finished h id a time found
              exact told_same h _ told (by rw [step, same]) (by rw [step, none, List.append_nil])
      | false =>
          have bound : id < h.demands.length := by
            rw [count]
            exact (List.getElem?_eq_some_iff.mp found).1
          obtain ⟨⟨d, started⟩, asked⟩ : ∃ demand, h.demands[id]? = some demand :=
            ⟨_, List.getElem?_eq_getElem bound⟩
          obtain ⟨turn, records⟩ := poll_step h id d started p asked found
          refine told_set h _ told id p (p.poll Answer.refused id h.system.store).1 found finished (h.answered id)
            (by rw [step, turn]) rfl ?_
          rw [records, finished]
          cases (p.poll Answer.refused id h.system.store).1 with
          | waiting job => exact .inl ⟨rfl, fun _ _ impossible => by cases impossible⟩
          | running r => exact .inl ⟨rfl, fun _ _ impossible => by cases impossible⟩
          | finished a time => exact .inr ⟨_, time, rfl, rfl, rfl⟩

theorem told_drop (h : History) (told : Told h) (id : Nat) : Told (h.step (.drop id)) := by
  cases found : h.system.processes[id]? with
  | none => exact told_same h _ told (by rw [step, dropped, found]) rfl
  | some p =>
      cases finished : p.isFinished with
      | true =>
          cases p with
          | waiting job | running r => cases finished
          | finished a time => exact told_same h _ told (by rw [step, drop_finished h id a time found]) rfl
      | false =>
          refine told_set h _ told id p _ found finished [] (by rw [step, drop_step h id p found finished])
            (List.append_nil _).symm (.inl ⟨rfl, ?_⟩)
          intro a time blocked
          cases blocked
          rfl

theorem run_told (start : Store) (events : List Event) : Told (run start events) := by
  induction events using List.reverseRecOn with
  | nil =>
      refine ⟨?_, List.nodup_nil, ?_⟩
      · intro r member
        cases member
      · intro id a time done
        cases done
  | append_singleton events e told =>
      rw [run_append]
      cases e with
      | ask limit d => exact told_ask _ told limit d
      | poll id => exact told_poll _ told (run_sound start events).count id
      | drop id => exact told_drop _ told id
      | advance time => exact told_same _ _ told rfl rfl
      | tick now => exact told_same _ _ told rfl rfl
      | control change => exact told_same _ _ told rfl rfl

theorem run_asked (start : Store) (events : List Event) :
    ∀ r ∈ (run start events).records, (run start events).demands[r.id]? = some (r.demand, r.started) := by
  induction events using List.reverseRecOn with
  | nil =>
      intro r member
      cases member
  | append_singleton events e ih =>
      intro r member
      rw [run_append] at member ⊢
      cases e with
      | ask limit d =>
          have asked := ih r member
          rw [step, List.getElem?_append_left (List.getElem?_eq_some_iff.mp asked).1]
          exact asked
      | poll id =>
          rcases List.mem_append.mp member with old | new
          · exact ih r old
          · rw [answered] at new
            split at new
            · split at new
              · cases new
              · rw [List.mem_singleton.mp new]
                assumption
            · cases new
      | drop id | advance time | tick now | control change => exact ih r member

end DoubleEntry.History
