import DoubleEntry.Proofs.Book.Writes
import DoubleEntry.Proofs.Program.Conduct

/-!
What a program does by itself: no trouble, no waiting, one reading of the clock. A unit of work that is open is
a book beside the committed one, and is lost if the program ends without a commit.
-/

set_option autoImplicit false

namespace DoubleEntry

open Time (Stamp)

-- The reply to a call, with the unit of work that is open after it and what is then committed.
def Book.serve (unit : Option Book) (committed : Book) :
    (c : Call) → Except ArithmeticError (Except StoreError c.Reply × Option Book × Book)
  | .getAccount id => .ok (.ok (committed.account? id), unit, committed)
  | .listEntries id => .ok (.ok (committed.entriesOf id), unit, committed)
  | .begin => .ok (.ok (), some committed, committed)
  | .commit => .ok (.ok (), none, unit.getD committed)
  | .rollback => .ok (.ok (), none, committed)
  | c => ((unit.getD committed).answer c).map fun (reply, book) => (reply, some book, committed)

theorem serve_work (unit : Option Book) (committed : Book) (c : Call) (isWork : c.isWork = true) :
    Book.serve unit committed c =
      ((unit.getD committed).answer c).map fun (reply, book) => (reply, some book, committed) := by
  cases c with
  | getAccounts ids => rfl
  | createAccount account => rfl
  | debit id amount now => rfl
  | credit id amount now => rfl
  | append e => rfl
  | getAccount id | listEntries id | begin | commit | rollback => cases isWork

namespace Program

variable {α β : Type}

def solo (now : Stamp) : Program α → Option Book → Book → Except ArithmeticError (α × Book)
  | done a, _, committed => .ok (a, committed)
  | log _ rest, unit, committed => rest.solo now unit committed
  | clock next, unit, committed => (next now).solo now unit committed
  | call c next, unit, committed =>
    match Book.serve unit committed c with
    | .ok (reply, unit, committed) => (next reply).solo now unit committed
    | .error e => .error e

theorem solo_call (now : Stamp) (c : Call) (next : Except StoreError c.Reply → Program α) (unit after : Option Book)
    (committed later : Book) (reply : Except StoreError c.Reply)
    (served : Book.serve unit committed c = .ok (reply, after, later)) :
    (call c next).solo now unit committed = (next reply).solo now after later := by
  simp only [solo, served]

theorem solo_closes (now : Stamp) (p : Program α) (a : α) (unit : Option Book) (committed : Book)
    (closes : p.Closes a) : p.solo now unit committed = .ok (a, committed) := by
  induction closes with
  | done a => rfl
  | log line rest a _ ih => exact ih

theorem solo_bind (now : Stamp) (p : Program α) (f : α → Program β) (g : α → β) (unit : Option Book)
    (committed : Book) (closing : ∀ a, (f a).Closes (g a)) :
    (p.bind f).solo now unit committed = (p.solo now unit committed).map fun (a, later) => (g a, later) := by
  induction p generalizing unit committed with
  | done a => exact solo_closes now (f a) (g a) unit committed (closing a)
  | log line rest ih => exact ih unit committed
  | clock next ih => exact ih now unit committed
  | call c next ih =>
      simp only [bind, solo]
      cases Book.serve unit committed c with
      | error e => rfl
      | ok served => exact ih served.1 served.2.1 served.2.2

-- Once a unit of work has read the clock, what the clock shows makes no difference any more.
theorem solo_after_reading (bad : α → Prop) (read : Bool) (p : Program α) (inside : p.InUnit bad read)
    (hasRead : read = true) (now other : Stamp) (unit : Option Book) (committed : Book) :
    p.solo now unit committed = p.solo other unit committed := by
  have closed : ∀ (q : Program α) (a : α) (unit : Option Book) (committed : Book), q.Closes a →
      q.solo now unit committed = q.solo other unit committed := by
    intro q a unit committed closes
    rw [solo_closes now q a unit committed closes, solo_closes other q a unit committed closes]
  induction inside generalizing unit committed with
  | log read line rest _ ih => exact ih hasRead unit committed
  | clock next _ _ => cases hasRead
  | work read c next _ _ _ ih =>
      simp only [solo]
      cases Book.serve unit committed c with
      | error e => rfl
      | ok served => exact ih served.1 hasRead served.2.1 served.2.2
  | commit read next a closes _ => exact closed (next (.ok ())) a none (unit.getD committed) closes
  | rollback read next a closes => exact closed (next (.ok ())) a none committed (closes _)

end Program
end DoubleEntry
