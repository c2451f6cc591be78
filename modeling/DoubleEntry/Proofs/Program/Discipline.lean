import DoubleEntry.Proofs.Program.Mirror

/-!
Disciplines of units of work. A discipline keeps a state from the begin of a unit to its end: the state says what may be
called next and whether the clock may be read, and it changes with what is read and what is replied. A program follows a
discipline if all of its units do, whatever fails.
-/

set_option autoImplicit false

namespace DoubleEntry

open Time (Stamp)

structure Discipline (σ : Type) where
  begins : σ → Prop
  mayRead : σ → Prop
  read : σ → Stamp → σ
  allows : σ → Call → Prop
  -- Where a call can lead to with a reply.
  leads : σ → (c : Call) → Except StoreError c.Reply → σ → Prop

variable {α σ : Type} (d : Discipline σ)

namespace Program

inductive FollowsIn : σ → Program α → Prop
  | log (state : σ) (line : LogLine) (rest : Program α) (follows : FollowsIn state rest) : FollowsIn state (.log line rest)
  | clock (state : σ) (next : Stamp → Program α) (may : d.mayRead state)
      (follows : ∀ now, FollowsIn (d.read state now) (next now)) : FollowsIn state (.clock next)
  | work (state : σ) (c : Call) (next : Except StoreError c.Reply → Program α) (isWork : c.isWork = true)
      (allowed : d.allows state c)
      (follows : ∀ reply later, d.leads state c reply later → FollowsIn later (next reply)) : FollowsIn state (.call c next)
  | ends (state : σ) (c : Call) (next : Except StoreError c.Reply → Program α) (isEnd : c.isEnd = true)
      (closes : ∀ reply, ∃ a, (next reply).Closes a) : FollowsIn state (.call c next)

inductive Follows : Program α → Prop
  | closes (p : Program α) (a : α) (closes : p.Closes a) : Follows p
  | log (line : LogLine) (rest : Program α) (follows : Follows rest) : Follows (.log line rest)
  | read (c : Call) (next : Except StoreError c.Reply → Program α) (isRead : c.isRead = true)
      (follows : ∀ reply, Follows (next reply)) : Follows (.call c next)
  | begin (next : Except StoreError Unit → Program α)
      (inside : ∀ state, d.begins state → FollowsIn d state (next (.ok ())))
      (failing : ∀ e, ∃ a, (next (.error e)).Closes a) : Follows (.call .begin next)

theorem log_follows (line : LogLine) (rest : Program α) (follows : (log line rest).Follows d) : rest.Follows d := by
  cases follows with
  | closes _ a closes =>
      cases closes with
      | log _ _ _ closes => exact .closes rest a closes
  | log _ _ follows => exact follows

section Mirrors

variable {β : Type} (g : α → β)

theorem mirrors_follows_in (state : σ) (p : Program α) (q : Program β) (mirrors : p.Mirrors g q)
    (follows : p.FollowsIn d state) : q.FollowsIn d state := by
  induction mirrors generalizing state with
  | done a => cases follows
  | logFirst line p q _ ih =>
      cases follows with
      | log _ _ _ follows => exact ih state follows
  | logSecond line p q _ ih => exact .log state line q (ih state follows)
  | clock next other _ ih =>
      cases follows with
      | clock _ _ may follows => exact .clock state other may fun now => ih now _ (follows now)
  | call c next other mirrors ih =>
      cases follows with
      | work _ _ _ isWork allowed follows =>
          exact .work state c other isWork allowed fun reply later leads => ih reply later (follows reply later leads)
      | ends _ _ _ isEnd closes =>
          refine .ends state c other isEnd fun reply => ?_
          obtain ⟨a, closing⟩ := closes reply
          exact ⟨g a, mirrors_closes g _ _ a (mirrors reply) closing⟩

theorem mirrors_follows (p : Program α) (q : Program β) (mirrors : p.Mirrors g q) (follows : p.Follows d) :
    q.Follows d := by
  induction mirrors with
  | done a => exact .closes _ _ (.done _)
  | logFirst line p q _ ih => exact ih (log_follows d line p follows)
  | logSecond line p q _ ih => exact .log line q (ih follows)
  | clock next other _ _ =>
      cases follows with
      | closes _ a closes => cases closes
  | call c next other mirrors ih =>
      cases follows with
      | closes _ a closes => cases closes
      | read _ _ isRead follows => exact .read c other isRead fun reply => ih reply (follows reply)
      | begin _ inside failing =>
          refine .begin other (fun state begins => ?_) fun e => ?_
          · exact mirrors_follows_in d g state _ _ (mirrors (.ok ())) (inside state begins)
          · obtain ⟨a, closing⟩ := failing e
            exact ⟨g a, mirrors_closes g _ _ a (mirrors (.error e)) closing⟩

end Mirrors

theorem reads_follow (p : Program α) (reads : p.OnlyReads) : p.Follows d := by
  induction reads with
  | closes p a closes => exact .closes p a closes
  | read c next isRead _ ih => exact .read c next isRead ih

end Program

/-- What is appended has the date that the clock showed when it was read in the same unit of work, and it is read only
once there. -/
def dating : Discipline (Option Stamp) where
  begins reading := reading = none
  mayRead reading := reading = none
  read _ now := some now
  allows reading c := ∀ e, c = .append e → reading = some e.created
  leads reading _ _ later := later = reading

end DoubleEntry
