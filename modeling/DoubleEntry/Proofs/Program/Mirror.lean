import DoubleEntry.Proofs.Program.Length
import DoubleEntry.Proofs.Program.Play

/-!
Programs that treat a store alike. One mirrors another if it makes the same calls and reads the clock at the same
places, whatever the replies, and its answer is a function of the other's. What they log may differ.
-/

set_option autoImplicit false

namespace DoubleEntry

open Time (Stamp)

variable {α β γ : Type}

inductive Program.Mirrors (g : α → β) : Program α → Program β → Prop
  | done (a : α) : Mirrors g (.done a) (.done (g a))
  | logFirst (line : LogLine) (p : Program α) (q : Program β) (mirrors : Mirrors g p q) : Mirrors g (.log line p) q
  | logSecond (line : LogLine) (p : Program α) (q : Program β) (mirrors : Mirrors g p q) : Mirrors g p (.log line q)
  | clock (next : Stamp → Program α) (other : Stamp → Program β)
      (mirrors : ∀ now, Mirrors g (next now) (other now)) : Mirrors g (.clock next) (.clock other)
  | call (c : Call) (next : Except StoreError c.Reply → Program α) (other : Except StoreError c.Reply → Program β)
      (mirrors : ∀ reply, Mirrors g (next reply) (other reply)) : Mirrors g (.call c next) (.call c other)

structure Deadline.Mirrors (g : α → β) (d : Deadline α) (e : Deadline β) : Prop where
  after : e.after = d.after
  instead : d.instead.Mirrors g e.instead

structure Task.Mirrors (g : α → β) (t : Task α) (u : Task β) : Prop where
  body : t.body.Mirrors g u.body
  deadline : Option.Rel (Deadline.Mirrors g) t.deadline u.deadline

namespace Program

theorem mirrors_closing (g : α → β) (p : Program α) (q : Program β) (a : α) (first : p.Closes a)
    (second : q.Closes (g a)) : p.Mirrors g q := by
  have answered : (done a).Mirrors g q := by
    generalize target : g a = b at second
    induction second with
    | done b =>
        subst target
        exact .done a
    | log line rest b _ ih => exact .logSecond line _ rest (ih target)
  induction first with
  | done a => exact answered
  | log line rest a _ ih => exact .logFirst line rest q (ih second answered)

theorem mirrors_closes (g : α → β) (p : Program α) (q : Program β) (a : α) (mirrors : p.Mirrors g q) (closes : p.Closes a) :
    q.Closes (g a) := by
  induction mirrors with
  | done b =>
      cases closes
      exact .done _
  | logFirst line p q _ ih =>
      cases closes with
      | log _ _ _ closes => exact ih closes
  | logSecond line p q _ ih => exact .log line q _ (ih closes)
  | clock next other _ _ => cases closes
  | call c next other _ _ => cases closes

theorem mirrors_bind (g : β → γ) (p : Program α) (f : α → Program β) (k : α → Program γ)
    (closing : ∀ a, ∃ b, (f a).Closes b ∧ (k a).Closes (g b)) : (p.bind f).Mirrors g (p.bind k) := by
  induction p with
  | done a =>
      obtain ⟨b, first, second⟩ := closing a
      exact mirrors_closing g _ _ b first second
  | log line rest ih => exact .logFirst line _ _ (.logSecond line _ _ ih)
  | clock next ih => exact .clock _ _ ih
  | call c next ih => exact .call c _ _ ih

theorem mirrors_then (g : α → β) (p : Program α) (f : α → Program β) (closing : ∀ a, (f a).Closes (g a)) :
    p.Mirrors g (p.bind f) := by
  have mirrors := mirrors_bind g p Program.done f fun a => ⟨a, .done a, closing a⟩
  rwa [bind_done] at mirrors

theorem mirrors_within (g : α → β) (n : Nat) (p : Program α) (q : Program β) (mirrors : p.Mirrors g q)
    (within : p.Within n) : q.Within n := by
  induction mirrors generalizing n with
  | done a => exact .done n (g a)
  | logFirst line p q _ ih =>
      cases within with
      | log _ _ _ within => exact ih n within
  | logSecond line p q _ ih => exact .log n line q (ih n within)
  | clock next other _ ih =>
      cases within with
      | clock _ _ within => exact .clock n other fun now => ih now n (within now)
  | call c next other _ ih =>
      cases within with
      | call left _ _ within => exact .call left c other fun reply => ih reply left (within reply)

theorem mirrors_play {σ : Type} (store : AnyStore σ) (g : α → β) (p : Program α) (q : Program β) (mirrors : p.Mirrors g q)
    (s : σ) : q.play store s = ⟨g (p.play store s).answer, (p.play store s).trace, (p.play store s).state⟩ := by
  induction mirrors generalizing s with
  | done a => rfl
  | logFirst line p q _ ih => exact ih s
  | logSecond line p q _ ih => exact ih s
  | clock next other _ ih => exact ih _ _
  | call c next other _ ih => simp only [play, ih]

-- No calls are made but reads.
inductive OnlyReads : Program α → Prop
  | closes (p : Program α) (a : α) (closes : p.Closes a) : OnlyReads p
  | read (c : Call) (next : Except StoreError c.Reply → Program α) (isRead : c.isRead = true)
      (reads : ∀ reply, OnlyReads (next reply)) : OnlyReads (.call c next)

end Program

namespace Task

theorem bind_bind (t : Task α) (f : α → Program β) (g : β → Program γ) :
    (t.bind f).bind g = t.bind fun a => (f a).bind g := by
  obtain ⟨body, deadline⟩ := t
  cases deadline <;> simp only [bind, Program.bind_bind, Option.map_none, Option.map_some]

end Task

theorem task_mirrors_bind (g : β → γ) (t : Task α) (f : α → Program β) (k : α → Program γ)
    (closing : ∀ a, ∃ b, (f a).Closes b ∧ (k a).Closes (g b)) : (t.bind f).Mirrors g (t.bind k) := by
  refine ⟨Program.mirrors_bind g t.body f k closing, ?_⟩
  obtain ⟨body, deadline⟩ := t
  cases deadline with
  | none => exact .none
  | some d => exact .some ⟨rfl, Program.mirrors_bind g d.instead f k closing⟩

theorem task_mirrors_log (g : α → β) (t : Task α) (u : Task β) (line : LogLine) (mirrors : t.Mirrors g u) :
    t.Mirrors g (u.logFirst line) :=
  ⟨.logSecond line _ _ mirrors.body, mirrors.deadline⟩

end DoubleEntry
