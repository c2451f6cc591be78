import DoubleEntry.Proofs.History.Covered

/-!
Histories that come to their end with an answer for each demand. Where nobody gives up, each process that is done was
answered, and so what has been answered in the end is what was asked.
-/

set_option autoImplicit false

namespace DoubleEntry.History

open Session (Answer)

theorem range_found {α : Type} (l : List α) : (List.range l.length).filterMap (fun i => l[i]?) = l := by
  induction l using List.reverseRecOn with
  | nil => rfl
  | append_singleton l x ih =>
      have before : (List.range l.length).filterMap (fun i => (l ++ [x])[i]?) = l := by
        rw [List.filterMap_congr fun i member => List.getElem?_append_left (List.mem_range.mp member)]
        exact ih
      rw [List.length_append, List.length_singleton, List.range_succ, List.filterMap_append, before]
      simp

variable (start : Store) (events : List Event)

theorem still_recorded (still : ∀ e ∈ events, e.Still) (id : Nat) (a : Answer) (time : Nat)
    (done : (run start events).system.processes[id]? = some (.finished a time)) :
    ∃ r ∈ (run start events).records, r.id = id := by
  induction events using List.reverseRecOn generalizing a time with
  | nil => cases done
  | append_singleton events e ih =>
      have before := ih fun e member => still e (List.mem_append_left _ member)
      have stillNow := still e (List.mem_append_right _ List.mem_cons_self)
      rw [run_append] at done ⊢
      cases e with
      | ask limit d =>
          rcases found_last _ _ _ id done with old | ⟨_, new⟩
          · exact before a time old
          · cases new
      | poll other =>
          rcases poll_cases start events (run_sound start events) other with
            ⟨same, _⟩ | ⟨p, d, started, found, asked, unfinished⟩
          · rw [step, same] at done
            obtain ⟨r, member, own⟩ := before a time done
            exact ⟨r, List.mem_append_left _ member, own⟩
          · obtain ⟨turn, records⟩ := poll_step (run start events) other d started p asked found
            rw [step, turn] at done
            by_cases own : other = id
            · subst own
              rw [List.getElem?_set_self (List.getElem?_eq_some_iff.mp found).1] at done
              rw [unfinished, Option.some.inj done] at records
              exact ⟨_, List.mem_append_right _ (by rw [records]; exact List.mem_singleton_self _), rfl⟩
            · rw [List.getElem?_set_ne own] at done
              obtain ⟨r, member, same⟩ := before a time done
              exact ⟨r, List.mem_append_left _ member, same⟩
      | drop other => cases stillNow
      | advance moment | tick now | control change => exact before a time done

theorem still_complete (still : ∀ e ∈ events, e.Still) (finished : (run start events).system.isFinished = true) :
    ((run start events).records.map Record.demand).Perm (asked events) := by
  have told := run_told start events
  have count := (run_sound start events).count
  have ids : ((run start events).records.map Record.id).Perm (List.range (run start events).demands.length) := by
    refine (List.perm_ext_iff_of_nodup told.once List.nodup_range).mpr fun id => ?_
    rw [List.mem_map, List.mem_range, count]
    constructor
    · rintro ⟨r, member, rfl⟩
      obtain ⟨_, done⟩ := told.done r member
      exact (List.getElem?_eq_some_iff.mp done).1
    · intro within
      have found := List.getElem?_eq_getElem within
      have ended : (run start events).system.processes[id].isFinished = true :=
        List.all_eq_true.mp finished _ (List.getElem_mem within)
      generalize (run start events).system.processes[id] = p at found ended
      cases p with
      | waiting job | running r => cases ended
      | finished a time => exact still_recorded start events still id a time found
  have own : (run start events).records.map Record.demand =
      ((run start events).records.map Record.id).filterMap fun id => (asked events)[id]? := by
    rw [List.filterMap_map, ← List.filterMap_eq_map]
    apply List.filterMap_congr
    intro r member
    have known := run_asked start events r member
    rw [Function.comp_apply, Function.comp_apply, ← demands_asked start events, List.getElem?_map, known]
    rfl
  have all : (List.range (run start events).demands.length).filterMap (fun id => (asked events)[id]?) = asked events := by
    rw [← List.length_map (f := Prod.fst), demands_asked]
    exact range_found (asked events)
  rw [own]
  exact (ids.filterMap _).trans (.of_eq all)

end DoubleEntry.History
