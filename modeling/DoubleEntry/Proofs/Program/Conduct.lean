import DoubleEntry.Ledger.Program

/-!
How a well-behaved program treats a store. It opens at most one unit of work, reads the clock at most once
inside of it, ends the unit by one commit or rollback, and after that only logs on its way to the answer. A
failure that is not the data's own leads to a rollback and to an answer of a kind that is told apart, `bad`.
-/

set_option autoImplicit false

namespace DoubleEntry

open Time (Stamp)

-- The calls that a unit of work is made of, between its begin and its end.
def Call.isWork : Call → Bool
  | getAccounts _ | createAccount _ | debit _ _ _ | credit _ _ _ | append _ => true
  | _ => false

-- The calls that read what is committed, outside of any unit of work.
def Call.isRead : Call → Bool
  | getAccount _ | listEntries _ => true
  | _ => false

theorem work_neither_reads_nor_ends (c : Call) (isWork : c.isWork = true) :
    c.isRead = false ∧ c.isEnd = false := by
  cases c with
  | getAccounts ids | createAccount account | debit id amount now | credit id amount now | append e =>
      exact ⟨rfl, rfl⟩
  | getAccount id | listEntries id | begin | commit | rollback => cases isWork

namespace Program

variable {α β : Type}

inductive Closes : Program α → α → Prop
  | done (a : α) : Closes (.done a) a
  | log (line : LogLine) (rest : Program α) (a : α) (closes : Closes rest a) : Closes (.log line rest) a

def Abandons (bad : α → Prop) (p : Program α) : Prop :=
  ∃ next a, p = .call .rollback next ∧ bad a ∧ ∀ reply, (next reply).Closes a

-- The flag tells whether the clock has been read.
inductive InUnit (bad : α → Prop) : Bool → Program α → Prop
  | log (read : Bool) (line : LogLine) (rest : Program α) (inside : InUnit bad read rest) :
      InUnit bad read (.log line rest)
  | clock (next : Stamp → Program α) (inside : ∀ now, InUnit bad true (next now)) :
      InUnit bad false (.clock next)
  | work (read : Bool) (c : Call) (next : Except StoreError c.Reply → Program α) (isWork : c.isWork = true)
      (inside : ∀ reply, InUnit bad read (next reply))
      (failing : ∀ detail, Abandons bad (next (.error (.backend detail)))) :
      InUnit bad read (.call c next)
  | commit (read : Bool) (next : Except StoreError Unit → Program α) (a : α) (closes : (next (.ok ())).Closes a)
      (failing : ∀ e, ∃ a, bad a ∧ (next (.error e)).Closes a) : InUnit bad read (.call .commit next)
  | rollback (read : Bool) (next : Except StoreError Unit → Program α) (a : α)
      (closes : ∀ reply, (next reply).Closes a) : InUnit bad read (.call .rollback next)

-- A look-up whose account is only used as a sign that it exists may be followed by more.
inductive Orderly (bad : α → Prop) : Program α → Prop
  | closes (p : Program α) (a : α) (closes : p.Closes a) : Orderly bad p
  | log (line : LogLine) (rest : Program α) (orderly : Orderly bad rest) : Orderly bad (.log line rest)
  | begin (next : Except StoreError Unit → Program α) (inside : InUnit bad false (next (.ok ())))
      (failing : ∀ e, ∃ a, bad a ∧ (next (.error e)).Closes a) : Orderly bad (.call .begin next)
  | read (c : Call) (next : Except StoreError c.Reply → Program α) (isRead : c.isRead = true)
      (closes : ∀ reply, ∃ a, (next reply).Closes a) : Orderly bad (.call c next)
  | probe (id : AccountId) (next : Except StoreError (Option Account) → Program α) (rest : Program α)
      (found : ∀ account, next (.ok (some account)) = rest) (orderly : Orderly bad rest)
      (missing : ∃ a, (next (.ok none)).Closes a) : Orderly bad (.call (.getAccount id) next)

theorem orderly_log (bad : α → Prop) (line : LogLine) (rest : Program α)
    (orderly : (Program.log line rest).Orderly bad) :
    rest.Orderly bad := by
  cases orderly with
  | closes _ a closes =>
      cases closes with
      | log _ _ _ closes => exact .closes rest a closes
  | log _ _ orderly => exact orderly

theorem in_unit_log (bad : α → Prop) (read : Bool) (line : LogLine) (rest : Program α)
    (inside : (Program.log line rest).InUnit bad read) : rest.InUnit bad read := by
  cases inside with
  | log _ _ _ inside => exact inside

theorem closes_bind (p : Program α) (f : α → Program β) (a : α) (b : β) (first : p.Closes a)
    (second : (f a).Closes b) : (p.bind f).Closes b := by
  induction first with
  | done a => exact second
  | log line rest a _ ih => exact .log line _ b (ih second)

theorem bind_closes (p : Program α) (f : α → Program β) (b : β) (closes : (p.bind f).Closes b) :
    ∃ a, p.Closes a := by
  induction p with
  | done a => exact ⟨a, .done a⟩
  | log line rest ih =>
      cases closes with
      | log _ _ _ closes =>
          obtain ⟨a, closesRest⟩ := ih closes
          exact ⟨a, .log line rest a closesRest⟩
  | clock next _ => cases closes
  | call c next _ => cases closes

section Bind

variable (bad : α → Prop) (worse : β → Prop) (f : α → Program β)
  (closing : ∀ a, ∃ b, (f a).Closes b) (spoiled : ∀ a, bad a → ∃ b, worse b ∧ (f a).Closes b)

include spoiled in
theorem failing_bind (p : Program α) (failing : ∃ a, bad a ∧ p.Closes a) :
    ∃ b, worse b ∧ (p.bind f).Closes b := by
  obtain ⟨a, isBad, closes⟩ := failing
  obtain ⟨b, isWorse, closesB⟩ := spoiled a isBad
  exact ⟨b, isWorse, closes_bind p f a b closes closesB⟩

include spoiled in
theorem abandons_bind (p : Program α) (abandons : p.Abandons bad) : (p.bind f).Abandons worse := by
  obtain ⟨next, a, rfl, isBad, closes⟩ := abandons
  obtain ⟨b, isWorse, closesB⟩ := spoiled a isBad
  exact ⟨_, b, rfl, isWorse, fun reply => closes_bind _ f a b (closes reply) closesB⟩

include closing spoiled in
theorem in_unit_bind (read : Bool) (p : Program α) (inside : p.InUnit bad read) :
    (p.bind f).InUnit worse read := by
  induction inside with
  | log read line rest _ ih => exact .log read line _ ih
  | clock next _ ih => exact .clock _ ih
  | work read c next isWork _ failing ih =>
      exact .work read c _ isWork ih fun detail => abandons_bind bad worse f spoiled _ (failing detail)
  | commit read next a closes failing =>
      obtain ⟨b, closesB⟩ := closing a
      exact .commit read _ b (closes_bind _ f a b closes closesB) fun e =>
        failing_bind bad worse f spoiled _ (failing e)
  | rollback read next a closes =>
      obtain ⟨b, closesB⟩ := closing a
      exact .rollback read _ b fun reply => closes_bind _ f a b (closes reply) closesB

include closing spoiled in
theorem orderly_bind (p : Program α) (orderly : p.Orderly bad) : (p.bind f).Orderly worse := by
  have closing_next : ∀ q : Program α, (∃ a, q.Closes a) → ∃ b, (q.bind f).Closes b := by
    rintro q ⟨a, closes⟩
    obtain ⟨b, closesB⟩ := closing a
    exact ⟨b, closes_bind q f a b closes closesB⟩
  induction orderly with
  | closes p a closes =>
      obtain ⟨b, closesB⟩ := closing_next p ⟨a, closes⟩
      exact .closes _ b closesB
  | log line rest _ ih => exact .log line _ ih
  | begin next inside failing =>
      exact .begin _ (in_unit_bind bad worse f closing spoiled false _ inside) fun e =>
        failing_bind bad worse f spoiled _ (failing e)
  | read c next isRead closes => exact .read c _ isRead fun reply => closing_next _ (closes reply)
  | probe id next rest found _ missing ih =>
      exact .probe id _ (rest.bind f) (fun account => by rw [found]) ih (closing_next _ missing)

end Bind

end Program

-- The program that takes over at the deadline only logs, and its answer is of the bad kind.
def Task.Orderly {α : Type} (bad : α → Prop) (t : Task α) : Prop :=
  t.body.Orderly bad ∧ ∀ d, t.deadline = some d → ∃ a, bad a ∧ d.instead.Closes a

theorem task_orderly_bind {α β : Type} (bad : α → Prop) (worse : β → Prop) (f : α → Program β)
    (closing : ∀ a, ∃ b, (f a).Closes b) (spoiled : ∀ a, bad a → ∃ b, worse b ∧ (f a).Closes b)
    (t : Task α) (orderly : t.Orderly bad) : (t.bind f).Orderly worse := by
  refine ⟨Program.orderly_bind bad worse f closing spoiled t.body orderly.1, ?_⟩
  intro d deadline
  obtain ⟨d', found, rfl⟩ := Option.map_eq_some_iff.mp deadline
  exact Program.failing_bind bad worse f spoiled _ (orderly.2 d' found)

theorem task_orderly_mono {α : Type} (bad worse : α → Prop) (weaker : ∀ a, bad a → worse a) (t : Task α)
    (orderly : t.Orderly bad) : t.Orderly worse := by
  have bound := task_orderly_bind bad worse .done (fun a => ⟨a, .done a⟩) (fun a isBad => ⟨a, weaker a isBad, .done a⟩)
    t orderly
  refine ⟨by simpa only [Task.bind, Program.bind_done] using bound.1, ?_⟩
  intro d deadline
  have later := bound.2 { after := d.after, instead := d.instead.bind .done } (by simp only [Task.bind, deadline]; rfl)
  rwa [Program.bind_done] at later

theorem task_orderly_map {α β : Type} (bad : α → Prop) (worse : β → Prop) (g : α → β)
    (spoiled : ∀ a, bad a → worse (g a)) (t : Task α) (orderly : t.Orderly bad) : (t.map g).Orderly worse :=
  task_orderly_bind bad worse _ (fun a => ⟨g a, .done _⟩) (fun a isBad => ⟨g a, spoiled a isBad, .done _⟩) t orderly

end DoubleEntry
