import DoubleEntry.Proofs.Book.Order
import DoubleEntry.Proofs.Program.Conduct
import DoubleEntry.Session

/-!
Units of work by hand, one call after another. The effect of a call that is answered: what was committed and which unit was
open before it, what it is answered with, and what is committed and open behind it. Only a commit that succeeds changes
what is committed; whatever else ends a unit takes its copy away.
-/

set_option autoImplicit false

namespace DoubleEntry.Units

open Session (Answer)

-- What can be asked of a store: to look at what is committed, to open a unit of work under a name, to work in it, to
-- end it, or to drop it.
inductive Act where
  | read (c : Call) (isRead : c.isRead = true)
  | begin (unit : String)
  | call (unit : String) (c : Call) (inside : (c.isWork || c.isEnd) = true)
  | drop (unit : String)

namespace Act

def unit? : Act → Option String
  | call unit _ _ | drop unit => some unit
  | read _ _ | begin _ => none

def step : Act → Session.Step
  | read c _ => .read c
  | begin unit => .begin unit
  | call unit c _ => .inUnit unit c
  | drop unit => .drop unit

def job : Act → Job Answer
  | read c _ => .task (.unlimited (Session.callOnly c))
  | begin unit => .openUnit unit (Session.callOnly .begin)
  | call unit c _ => .onUnit unit (Session.callOnly c) (.noUnit unit)
  | drop unit => .dropUnit unit .dropped (.noUnit unit)

theorem step_jobs (limit : Option Nat) (a : Act) : Session.jobs limit a.step = [a.job] := by
  cases a <;> rfl

end Act

structure State where
  unit : Option (String × Book)
  committed : Book

inductive CallEffect : Act → Answer → State → State → Prop
  | account (id : AccountId) (b : Book) :
      CallEffect (.read (.getAccount id) rfl) (.reply (.getAccount id) (.ok (b.account? id))) ⟨none, b⟩ ⟨none, b⟩
  | entries (id : AccountId) (b : Book) :
      CallEffect (.read (.listEntries id) rfl) (.reply (.listEntries id) (.ok (b.entriesOf id))) ⟨none, b⟩ ⟨none, b⟩
  | begun (name : String) (b : Book) : CallEffect (.begin name) (.reply .begin (.ok ())) ⟨none, b⟩ ⟨some (name, b), b⟩
  | beginFailed (name : String) (e : StoreError) (x : State) : CallEffect (.begin name) (.reply .begin (.error e)) x x
  | worked (name : String) (c : Call) (inside : (c.isWork || c.isEnd) = true) (isWork : c.isWork = true)
      (reply : Except StoreError c.Reply) (copy after b : Book) (answered : copy.answer c = .ok (reply, after)) :
      CallEffect (.call name c inside) (.reply c reply) ⟨some (name, copy), b⟩ ⟨some (name, after), b⟩
  | workFailed (name : String) (c : Call) (inside : (c.isWork || c.isEnd) = true) (isWork : c.isWork = true)
      (e : StoreError) (copy b : Book) :
      CallEffect (.call name c inside) (.reply c (.error e)) ⟨some (name, copy), b⟩ ⟨some (name, copy), b⟩
  | panicked (name : String) (c : Call) (inside : (c.isWork || c.isEnd) = true) (isWork : c.isWork = true)
      (e : ArithmeticError) (copy b : Book) (refused : copy.answer c = .error e) :
      CallEffect (.call name c inside) (.refused e) ⟨some (name, copy), b⟩ ⟨none, b⟩
  | committed (name : String) (copy b : Book) :
      CallEffect (.call name .commit rfl) (.reply .commit (.ok ())) ⟨some (name, copy), b⟩ ⟨none, copy⟩
  | commitFailed (name : String) (e : StoreError) (copy b : Book) :
      CallEffect (.call name .commit rfl) (.reply .commit (.error e)) ⟨some (name, copy), b⟩ ⟨none, b⟩
  | rolledBack (name : String) (reply : Except StoreError Unit) (copy b : Book) :
      CallEffect (.call name .rollback rfl) (.reply .rollback reply) ⟨some (name, copy), b⟩ ⟨none, b⟩
  | dropped (name : String) (copy b : Book) : CallEffect (.drop name) .dropped ⟨some (name, copy), b⟩ ⟨none, b⟩
  | missing (a : Act) (name : String) (needs : a.unit? = some name) (x : State) : CallEffect a (.noUnit name) x x

def isCommitted : Answer → Bool
  | .reply .commit (.ok _) => true
  | _ => false

section Effects

variable (a : Act) (answer : Answer) (before after : State) (effect : CallEffect a answer before after)

include effect

theorem effect_publishes (success : isCommitted answer = true) :
    ∃ name copy, a = .call name .commit rfl ∧ before.unit = some (name, copy) ∧ after = ⟨none, copy⟩ := by
  cases effect with
  | committed name copy b => exact ⟨name, copy, rfl, rfl, rfl⟩
  | account | entries | begun | beginFailed | commitFailed | rolledBack | dropped | missing | panicked => cases success
  | worked name c _ isWork reply _ _ _ _ =>
      cases c with
      | commit => cases isWork
      | getAccount _ | listEntries _ | begin | getAccounts _ | createAccount _ | debit _ _ _ | credit _ _ _ | append _
      | rollback => cases success
  | workFailed name c _ isWork e _ _ => cases c <;> cases success

theorem effect_keeps (other : isCommitted answer = false) : after.committed = before.committed := by
  cases effect with
  | committed name copy b => cases other
  | account | entries | begun | beginFailed | worked | workFailed | panicked | commitFailed | rolledBack | dropped
  | missing => rfl

end Effects

-- The order of the books, in what is committed and in the copy that is at work.
structure State.InOrder (x : State) : Prop where
  committed : x.committed.InOrder
  unit : ∀ opened, x.unit = some opened → opened.2.InOrder

theorem effect_in_order (a : Act) (answer : Answer) (before after : State) (effect : CallEffect a answer before after)
    (order : before.InOrder) : after.InOrder := by
  have closed : ∀ b : Book, b.InOrder → State.InOrder ⟨none, b⟩ := fun b kept =>
    ⟨kept, fun _ impossible => by cases impossible⟩
  have opened : ∀ (name : String) (copy b : Book), copy.InOrder → b.InOrder → State.InOrder ⟨some (name, copy), b⟩ :=
    fun name copy b own kept => ⟨kept, fun _ same => by cases same; exact own⟩
  cases effect with
  | account | entries | beginFailed | missing | workFailed => exact order
  | begun name b => exact opened name b b order.committed order.committed
  | worked name c _ _ reply copy later b answered =>
      exact opened name later b (Book.answer_in_order copy (order.unit _ rfl) c reply later answered) order.committed
  | panicked | commitFailed | rolledBack | dropped => exact closed _ order.committed
  | committed name copy b => exact closed copy (order.unit _ rfl)

end DoubleEntry.Units
