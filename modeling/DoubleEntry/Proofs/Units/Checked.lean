import DoubleEntry.Proofs.Book.Checked
import DoubleEntry.Proofs.Units.Isolation

/-!
What a schema would check, in units of work. Whatever is called, in whatever order, everything in the books and in the
copy that is at work stays checked, and no call panics, exactly as long as no debit of less than nothing takes a balance
to where it is not allowed. The first one that does is seen at once: its copy is no longer checked, or the call panics.
-/

set_option autoImplicit false

namespace DoubleEntry.Units

open Session (Answer)

-- What is so of all books there are: those that are committed, and the copy of the unit that is open.
structure State.Every (P : Book → Prop) (x : State) : Prop where
  committed : P x.committed
  unit : ∀ opened, x.unit = some opened → P opened.2

-- The call has come to the books: it was done, or it was one that panics.
def isDone : Answer → Bool
  | .reply _ (.ok _) => true
  | .refused _ => true
  | _ => false

section Effects

variable (a : Act) (answer : Answer) (before after : State) (effect : CallEffect a answer before after)

include effect

theorem effect_every (P Q : Book → Prop) (weaker : ∀ b, P b → Q b)
    (kept : ∀ name c inside copy reply later, a = .call name c inside → before.unit = some (name, copy) →
      answer = .reply c reply → copy.answer c = .ok (reply, later) → P copy → Q later)
    (every : before.Every P) : after.Every Q := by
  have closed : ∀ b : Book, P b → State.Every Q ⟨none, b⟩ := fun b own =>
    ⟨weaker b own, fun _ impossible => by cases impossible⟩
  cases effect with
  | account | entries | beginFailed | missing | workFailed =>
      exact ⟨weaker _ every.committed, fun opened same => weaker _ (every.unit opened same)⟩
  | begun name b =>
      exact ⟨weaker _ every.committed, fun _ same => by cases same; exact weaker _ every.committed⟩
  | worked name c inside _ reply copy later b answered =>
      have work := kept name c inside copy reply later rfl rfl rfl answered (every.unit _ rfl)
      exact ⟨weaker _ every.committed, fun _ same => by cases same; exact work⟩
  | panicked | commitFailed | rolledBack | dropped => exact closed _ every.committed
  | committed name copy b => exact closed copy (every.unit _ rfl)

theorem done_reply (name : String) (c : Call) (inside : (c.isWork || c.isEnd) = true) (copy : Book)
    (asked : a = .call name c inside) (unit : before.unit = some (name, copy)) (isWork : c.isWork = true)
    (done : isDone answer = true) :
    (∃ e, copy.answer c = .error e ∧ answer = .refused e) ∨
      ∃ reply later, copy.answer c = .ok (reply, later) ∧ after.unit = some (name, later) := by
  cases effect with
  | account | entries | begun | dropped => cases asked
  | beginFailed | workFailed | commitFailed | missing => cases done
  | worked own c _ _ reply opened later b answered =>
      cases asked
      cases unit
      exact .inr ⟨reply, later, answered, rfl⟩
  | panicked own c _ _ e opened b refused =>
      cases asked
      cases unit
      exact .inl ⟨e, refused, rfl⟩
  | committed | rolledBack =>
      cases asked
      cases isWork

end Effects

section Runs

variable (events : List Event) (moment : Nat)

inductive Inflated : Prop
  | debit (id : Nat) (name : String) (c : Call) (inside : (c.isWork || c.isEnd) = true) (copy : Book)
      (asked : (historyAt events moment).acts[id]? = some (.call name c inside))
      (unit : (historyAt events moment).state.unit = some (name, copy)) (inflates : copy.Inflates c)
      (answer : Answer) (answered : AnsweredAt events moment id answer) (done : isDone answer = true)

structure Kept : Prop where
  checked : ∀ moment, (historyAt events moment).state.Every Book.Checked
  calm : ∀ moment id e, ¬ AnsweredAt events moment id (.refused e)

theorem start_every (P : Book → Prop) (empty : P Book.empty) : (run []).state.Every P :=
  ⟨empty, fun _ impossible => by cases impossible⟩

theorem event_every (P Q : Book → Prop) (weaker : ∀ b, P b → Q b)
    (kept : ∀ id name c inside copy reply later, (historyAt events moment).acts[id]? = some (.call name c inside) →
      (historyAt events moment).state.unit = some (name, copy) → AnsweredAt events moment id (.reply c reply) →
      copy.answer c = .ok (reply, later) → P copy → Q later)
    (every : (historyAt events moment).state.Every P) : (historyAt events (moment + 1)).state.Every Q := by
  have all : (historyAt events moment).state.Every Q :=
    ⟨weaker _ every.committed, fun opened same => weaker _ (every.unit opened same)⟩
  cases history_changes events moment with
  | silent same => exact same ▸ all
  | gone id turn ended =>
      rw [ended]
      exact ⟨all.committed, fun _ impossible => by cases impossible⟩
  | answered id answer answered =>
      obtain ⟨a, asked, effect⟩ := answered_effect events moment id answer answered
      refine effect_every a answer _ _ effect P Q weaker ?_ every
      rintro name c inside copy reply later rfl unit rfl
      exact kept id name c inside copy reply later asked unit answered

theorem event_checked (fine : ¬ Inflated events moment) (checked : (historyAt events moment).state.Every Book.Checked) :
    (historyAt events (moment + 1)).state.Every Book.Checked := by
  refine event_every events moment _ _ (fun _ => id) ?_ checked
  intro id name c inside copy reply later asked unit answered result own
  by_cases inflates : copy.Inflates c
  · rcases Book.inflated_answer copy c inflates with ⟨e, refused⟩ | ⟨account, amount, now, after, rfl, debited, _⟩
    · rw [refused] at result
      cases result
    · simp only [Book.answer, debited] at result
      cases result
      exact absurd (.debit id name _ inside copy asked unit inflates _ answered rfl) fine
  · obtain ⟨reply, after, answers, kept⟩ := Book.answer_checked copy own c inflates
    rw [result] at answers
    cases answers
    exact kept

theorem always_checked (fine : ∀ moment, ¬ Inflated events moment) :
    (historyAt events moment).state.Every Book.Checked := by
  induction moment with
  | zero => exact start_every Book.Checked Book.empty_checked
  | succ moment ih => exact event_checked events moment (fine moment) ih

theorem entries_counted : (historyAt events moment).state.Every fun b => b.lastEntry ≤ moment := by
  induction moment with
  | zero => exact start_every (fun b => b.lastEntry ≤ 0) (Nat.le_refl 0)
  | succ moment ih =>
      refine event_every events moment _ _ (fun _ => Nat.le_succ_of_le) ?_ ih
      intro id name c inside copy reply later _ _ _ result bounded
      exact (Book.answer_numbers copy c reply later result).trans (Nat.succ_le_succ bounded)

theorem panic_inflated (fine : ∀ moment, ¬ Inflated events moment) (id : Nat) (e : ArithmeticError) :
    ¬ AnsweredAt events moment id (.refused e) := by
  intro answered
  have checked := always_checked events moment fine
  obtain ⟨a, asked, effect⟩ := answered_effect events moment id _ answered
  generalize before : (historyAt events moment).state = x at effect
  generalize (historyAt events (moment + 1)).state = after at effect
  cases effect with
  | panicked name c inside isWork e copy b refused =>
      have unit : (historyAt events moment).state.unit = some (name, copy) := by rw [before]
      by_cases inflates : copy.Inflates c
      · exact fine moment (.debit id name c inside copy asked unit inflates _ answered rfl)
      · obtain ⟨_, _, answers, _⟩ := Book.answer_checked copy (checked.unit _ unit) c inflates
        rw [refused] at answers
        cases answers

theorem inflated_not_kept (inflated : Inflated events moment) : ¬ Kept events := by
  intro kept
  cases inflated with
  | debit id name c inside copy asked unit inflates answer answered done =>
      have isWork : c.isWork = true := by
        cases inflates
        rfl
      obtain ⟨a, known, effect⟩ := answered_effect events moment id answer answered
      rw [asked] at known
      cases known
      rcases done_reply _ answer _ _ effect name c inside copy rfl unit isWork done with
        ⟨e, _, rfl⟩ | ⟨reply, later, answers, reached⟩
      · exact kept.calm moment id e answered
      · have checked := (kept.checked (moment + 1)).unit _ reached
        rcases Book.inflated_answer copy c inflates with ⟨e, refused⟩ | ⟨account, amount, now, after, rfl, debited, not⟩
        · rw [refused] at answers
          cases answers
        · simp only [Book.answer, debited] at answers
          cases answers
          exact not checked

end Runs

/-- The checks keep what they promise, in any run of calls with any arguments, exactly as long as no debit inflates a
balance; and no run comes to the end of the numbers for entries before it has had as many events. -/
theorem checked_until_inflated (events : List Event) :
    (Kept events ↔ ∀ moment, ¬ Inflated events moment) ∧
      ∀ moment, (historyAt events moment).state.Every fun b => b.lastEntry ≤ moment := by
  refine ⟨⟨?_, ?_⟩, entries_counted events⟩
  · intro kept moment inflated
    exact inflated_not_kept events moment inflated kept
  · intro fine
    exact ⟨fun moment => always_checked events moment fine, fun moment => panic_inflated events moment fine⟩

def debitRun (balance amount : Decimal) : List Event :=
  [.act (.begin "a"), .act (.call "a" (.createAccount ⟨1, balance, default, default⟩) rfl),
    .act (.call "a" (.debit 1 amount default) rfl), .poll 0, .poll 1, .poll 2]

def belowLimit : Decimal := .ofWhole (tenTo 23 - 1) (by decide)
def largest : Decimal := .ofWhole (twoTo 96 - 1) (by decide)
def one : Decimal := .ofWhole 1 (by decide)

-- Taking minus one from an account right below the limit brings it there. Taking the least of all decimals panics.
theorem inflating_debits :
    ¬ (historyAt (debitRun belowLimit one.neg) 6).state.Every Book.Checked ∧
    (∃ e, AnsweredAt (debitRun one largest.neg) 5 2 (.refused e)) ∧ ¬ ∀ events, Kept events := by
  have inflated : ∃ copy, (historyAt (debitRun belowLimit one.neg) 6).state.unit = some ("a", copy) ∧
      copy.accounts = [⟨1, Amount.limit, default, default⟩] := ⟨_, rfl, rfl⟩
  have panics : AnsweredAt (debitRun one largest.neg) 5 2 (.refused .decimalSubtraction) := ⟨rfl, _, 0, rfl, rfl, rfl⟩
  have beyond : Amount.isBelowLimit Amount.limit = false := by decide
  refine ⟨?_, ⟨_, panics⟩, ?_⟩
  · intro checked
    obtain ⟨copy, unit, accounts⟩ := inflated
    have below := (checked.unit _ unit).balances _ (accounts ▸ List.mem_singleton_self _)
    rw [(below_limit Amount.limit).mpr below] at beyond
    cases beyond
  · intro kept
    exact (kept _).calm 5 2 _ panics

end DoubleEntry.Units
