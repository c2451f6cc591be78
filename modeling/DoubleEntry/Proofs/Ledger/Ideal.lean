import DoubleEntry.Proofs.Decimal.Value
import DoubleEntry.Proofs.Ledger.Conduct

/-!
The ledger as its users see it: the balance of each account and the amounts of its entries, as numbers. Operations
on it are exact and know no limit. What they answer leaves out the times, the ids of entries, and how a store tells
about its failures.
-/

set_option autoImplicit false

namespace DoubleEntry

open Ledger (Operation Outcome)

@[ext]
structure Position where
  balance : AccountId → Option ℚ
  entries : AccountId → List ℚ

namespace Position

def empty : Position := ⟨fun _ => none, fun _ => []⟩

def put (p : Position) (id : AccountId) (balance : ℚ) : Position :=
  { p with balance := fun other => if other = id then some balance else p.balance other }

def post (p : Position) (id : AccountId) (amount : ℚ) : Position :=
  { p with entries := fun other => if other = id then p.entries other ++ [amount] else p.entries other }

@[simp] theorem put_balance (p : Position) (id other : AccountId) (balance : ℚ) :
    (p.put id balance).balance other = if other = id then some balance else p.balance other := rfl

@[simp] theorem post_balance (p : Position) (id : AccountId) (amount : ℚ) : (p.post id amount).balance = p.balance :=
  rfl

@[simp] theorem post_entries (p : Position) (id other : AccountId) (amount : ℚ) :
    (p.post id amount).entries other = if other = id then p.entries other ++ [amount] else p.entries other := rfl

end Position

inductive Gist where
  | account (id : AccountId) (balance : ℚ)
  | done
  | entries (amounts : List ℚ)
  | failed (e : LedgerError)
deriving DecidableEq

namespace LedgerError

-- The step at which a store failed is told, but not what it says about that.
def bare : LedgerError → LedgerError
  | internal context _ => internal context (.backend "")
  | e => e

end LedgerError

namespace Ledger

def Outcome.gist : Outcome → Gist
  | account (.ok a) => .account a.id a.balance.value
  | transfer (.ok _) => .done
  | entries (.ok l) => .entries (l.map fun e => e.amount.value)
  | account (.error e) | transfer (.error e) | entries (.error e) => .failed e.bare

def Operation.ids : Operation → List AccountId
  | createAccount input => [input.id]
  | getBalance id | listEntries id => [id]
  | createTransfer input => [input.source, input.destination]

def Operation.size (o : Operation) : ℚ :=
  match o.amount? with
  | some d => |d.value|
  | none => 0

end Ledger

namespace Position

-- An account below the first number is one that no store takes.
def openAccount (p : Position) (id : AccountId) (amount : ℚ) : Gist × Position :=
  if id < 1 then (.failed (.internal (s!"create account {id}" ++ ": " ++ "insert account") (.backend "")), p)
  else
    match p.balance id with
    | some _ => (.failed (.alreadyExists id), p)
    | none => (.account id amount, (p.put id amount).post id amount)

def transfer (p : Position) (source destination : AccountId) (amount : ℚ) : Gist × Position :=
  match p.balance source, p.balance destination with
  | some held, some other =>
    if held < amount then (.failed (.insufficientFunds source), p)
    else
      (.done, (((p.put source (held - amount)).put destination (other + amount)).post source (-amount)).post
        destination amount)
  | _, _ => (.failed (.partyNotFound source destination), p)

def whereKnown (p : Position) (id : AccountId) (gist : ℚ → Gist) : Gist × Position :=
  match p.balance id with
  | some balance => (gist balance, p)
  | none => (.failed (.notFound id), p)

def perform (p : Position) (o : Operation) : Gist × Position :=
  match o.rejection? with
  | some e => (.failed e, p)
  | none =>
    match o with
    | .createAccount input => p.openAccount input.id (Amount.round input.initialBalance).value
    | .createTransfer input => p.transfer input.source input.destination (Amount.round input.amount).value
    | .getBalance id => p.whereKnown id (.account id)
    | .listEntries id => p.whereKnown id fun _ => .entries (p.entries id)

-- Neither the amount nor a balance that results comes up to the limit.
structure WithinLimit (p : Position) (o : Operation) : Prop where
  amount : ∀ d, o.amount? = some d → d.value < 10 ^ 23
  balance : ∀ id q, (p.perform o).2.balance id = some q → q < 10 ^ 23

def AllWithinLimit (p : Position) : List Operation → Prop
  | [] => True
  | o :: rest => p.WithinLimit o ∧ (p.perform o).2.AllWithinLimit rest

theorem open_account_balance (p : Position) (id other : AccountId) (amount : ℚ) :
    (p.openAccount id amount).2.balance other = p.balance other ∨
      (p.openAccount id amount).2.balance other = some amount := by
  rw [openAccount]
  by_cases low : id < 1
  · rw [if_pos low]
    exact .inl rfl
  rw [if_neg low]
  cases p.balance id with
  | some balance => exact .inl rfl
  | none =>
      by_cases own : other = id
      · exact .inr (if_pos own)
      · exact .inl (if_neg own)

theorem transfer_balance (p : Position) (source destination other : AccountId) (amount : ℚ) :
    (p.transfer source destination amount).2.balance other = p.balance other ∨ ∃ held, p.balance other = some held ∧
      ((p.transfer source destination amount).2.balance other = some (held - amount) ∨
        (p.transfer source destination amount).2.balance other = some (held + amount)) := by
  rw [transfer]
  cases ofSource : p.balance source with
  | none => exact .inl rfl
  | some left =>
      cases ofDestination : p.balance destination with
      | none => exact .inl rfl
      | some right =>
          by_cases short : left < amount
          · simp only [if_pos short, true_or]
          simp only [if_neg short, post_balance, put_balance]
          by_cases here : other = destination
          · rw [if_pos here, here]
            exact .inr ⟨right, ofDestination, .inr rfl⟩
          by_cases there : other = source
          · rw [if_neg here, if_pos there, there]
            exact .inr ⟨left, ofSource, .inl rfl⟩
          · rw [if_neg here, if_neg there]
            exact .inl rfl

theorem known_balance (p : Position) (id : AccountId) (gist : ℚ → Gist) : (p.whereKnown id gist).2 = p := by
  rw [whereKnown]
  cases p.balance id <;> rfl

theorem size_nonneg (o : Operation) : 0 ≤ o.size := by
  rw [Operation.size]
  cases o.amount? with
  | none => exact le_refl 0
  | some d => exact abs_nonneg d.value

theorem perform_bound (p : Position) (o : Operation) (bound : ℚ) (nonneg : 0 ≤ bound)
    (held : ∀ id q, p.balance id = some q → q ≤ bound) (id : AccountId) (q : ℚ)
    (known : (p.perform o).2.balance id = some q) : q ≤ bound + o.size := by
  have kept : p.balance id = some q → q ≤ bound + o.size := fun old =>
    (held id q old).trans (le_add_of_nonneg_right (size_nonneg o))
  unfold perform at known
  cases rejected : o.rejection? with
  | some e =>
      rw [rejected] at known
      exact kept known
  | none =>
      rw [rejected] at known
      cases o with
      | getBalance account | listEntries account =>
          simp only [known_balance] at known
          exact kept known
      | createAccount input =>
          have size : |(Amount.round input.initialBalance).value| = Operation.size (.createAccount input) := rfl
          rcases p.open_account_balance input.id id (Amount.round input.initialBalance).value with old | new
          · exact kept (old.symm.trans known)
          · have same : (Amount.round input.initialBalance).value = q := Option.some.inj (new.symm.trans known)
            rw [← same, ← size]
            exact (le_abs_self _).trans (le_add_of_nonneg_left nonneg)
      | createTransfer input =>
          have size : |(Amount.round input.amount).value| = Operation.size (.createTransfer input) := rfl
          rcases p.transfer_balance input.source input.destination id (Amount.round input.amount).value with
            old | ⟨before, there, less | more⟩
          · exact kept (old.symm.trans known)
          · have same : before - (Amount.round input.amount).value = q := Option.some.inj (less.symm.trans known)
            rw [← same, ← size, sub_eq_add_neg]
            exact add_le_add (held id before there) (neg_le_abs _)
          · have same : before + (Amount.round input.amount).value = q := Option.some.inj (more.symm.trans known)
            rw [← same, ← size]
            exact add_le_add (held id before there) (le_abs_self _)

/-- Operations fit whose amounts add up to less than the limit. -/
theorem small_amounts_fit (p : Position) (operations : List Operation) (bound : ℚ) (nonneg : 0 ≤ bound)
    (held : ∀ id q, p.balance id = some q → q ≤ bound)
    (room : bound + (operations.map Operation.size).sum < 10 ^ 23) : p.AllWithinLimit operations := by
  induction operations generalizing p bound with
  | nil => trivial
  | cons o rest ih =>
      have later : 0 ≤ (rest.map Operation.size).sum := by
        apply List.sum_nonneg
        intro x member
        obtain ⟨o, _, rfl⟩ := List.mem_map.mp member
        exact size_nonneg o
      rw [List.map_cons, List.sum_cons] at room
      have grown := perform_bound p o bound nonneg held
      refine ⟨⟨?_, ?_⟩, ?_⟩
      · intro d same
        have size : o.size = |d.value| := by rw [Operation.size, same]
        have below := le_abs_self d.value
        rw [← size] at below
        linarith
      · intro id q known
        have bounded := grown id q known
        linarith
      · exact ih (p.perform o).2 (bound + o.size) (add_nonneg nonneg (size_nonneg o)) grown (by linarith)

end Position
end DoubleEntry
