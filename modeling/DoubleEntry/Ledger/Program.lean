import DoubleEntry.Ledger.Error
import DoubleEntry.Ledger.Log

/-!
What an operation of the ledger does to a store, as data. A program calls the store, reads the clock and
logs; what comes next depends on the answers. Every store that can answer calls can run it: one in memory,
one behind SQL, or one whose answers are given. A task is a program with a deadline: if that passes first,
another program takes over, which calls no store.
-/

set_option autoImplicit false

namespace DoubleEntry

open Time (Stamp)

inductive Call where
  | getAccount (id : AccountId)
  | listEntries (id : AccountId)
  | begin
  | getAccounts (ids : List AccountId)
  | createAccount (account : Account)
  | debit (id : AccountId) (amount : Decimal) (modified : Stamp)
  | credit (id : AccountId) (amount : Decimal) (modified : Stamp)
  | append (entry : NewEntry)
  | commit
  | rollback
deriving DecidableEq

-- What a call is answered with when it succeeds. Debits and credits tell how many accounts changed.
abbrev Call.Reply : Call → Type
  | getAccount _ => Option Account
  | listEntries _ => List Entry
  | begin => Unit
  | getAccounts _ => List Account
  | createAccount _ => Account
  | debit _ _ _ => Nat
  | credit _ _ _ => Nat
  | append _ => Entry
  | commit => Unit
  | rollback => Unit

def Call.isEnd : Call → Bool
  | commit | rollback => true
  | _ => false

inductive Program (α : Type) where
  | done (a : α)
  | call (c : Call) (next : Except StoreError c.Reply → Program α)
  | clock (next : Stamp → Program α)
  | log (line : LogLine) (rest : Program α)

namespace Program

variable {α β : Type}

def bind : Program α → (α → Program β) → Program β
  | done a, f => f a
  | call c next, f => .call c fun reply => (next reply).bind f
  | clock next, f => .clock fun stamp => (next stamp).bind f
  | log line rest, f => .log line (rest.bind f)

def map (f : α → β) (p : Program α) : Program β := p.bind fun a => .done (f a)

theorem bind_done (p : Program α) : p.bind .done = p := by
  induction p with
  | done a => rfl
  | call c next ih => simp [bind, ih]
  | clock next ih => simp [bind, ih]
  | log line rest ih => simp [bind, ih]

theorem bind_bind {γ : Type} (p : Program α) (f : α → Program β) (g : β → Program γ) :
    (p.bind f).bind g = p.bind fun a => (f a).bind g := by
  induction p with
  | done a => rfl
  | call c next ih => simp [bind, ih]
  | clock next ih => simp [bind, ih]
  | log line rest ih => simp [bind, ih]

end Program

structure Deadline (α : Type) where
  -- Milliseconds from the start.
  after : Nat
  instead : Program α

structure Task (α : Type) where
  body : Program α
  deadline : Option (Deadline α)

namespace Task

variable {α β : Type}

def unlimited (body : Program α) : Task α := ⟨body, none⟩

def bind (t : Task α) (f : α → Program β) : Task β :=
  { body := t.body.bind f
    deadline := t.deadline.map fun d => { after := d.after, instead := d.instead.bind f } }

def map (f : α → β) (t : Task α) : Task β := t.bind fun a => .done (f a)

def logFirst (line : LogLine) (t : Task α) : Task α := { t with body := .log line t.body }

end Task
end DoubleEntry
