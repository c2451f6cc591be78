import DoubleEntry.Binary64

/-!
Settings before they have types. A value remembers where it was read. One that is laid over another keeps
what only the lower one sets: tables are merged key by key at every depth, and anything else is replaced.
-/

set_option autoImplicit false

namespace DoubleEntry.Config

inductive Scalar where
  | text (s : String)
  | int (n : Int)
  | float (x : Binary64)
  | flag (b : Bool)
deriving DecidableEq, Repr

abbrev Origin := Option String

inductive Value where
  | scalar (origin : Origin) (s : Scalar)
  | list (origin : Origin) (items : List Value)
  | table (origin : Origin) (entries : List (String × Value))
deriving Inhabited

abbrev Table := List (String × Value)

namespace Table

def put {α : Type} (key : String) (a : α) : List (String × α) → List (String × α)
  | [] => [(key, a)]
  | (k, b) :: rest => if k = key then (key, a) :: rest else (k, b) :: put key a rest

theorem lookup_put_self {α : Type} (key : String) (a : α) (entries : List (String × α)) :
    (put key a entries).lookup key = some a := by
  induction entries with
  | nil => simp [put]
  | cons entry rest ih =>
    obtain ⟨k, b⟩ := entry
    unfold put
    split
    · simp
    · rename_i other
      rw [List.lookup_cons, beq_false_of_ne (Ne.symm other)]
      exact ih

theorem lookup_put_of_ne {α : Type} {key k : String} (other : k ≠ key) (a : α)
    (entries : List (String × α)) : (put key a entries).lookup k = entries.lookup k := by
  induction entries with
  | nil =>
    unfold put
    rw [List.lookup_cons, beq_false_of_ne other]
  | cons entry rest ih =>
    obtain ⟨j, b⟩ := entry
    unfold put
    split
    · rename_i same
      subst same
      rw [List.lookup_cons, List.lookup_cons, beq_false_of_ne other]
    · rw [List.lookup_cons, List.lookup_cons, ih]

end Table

namespace Value

def emptyTable : Value := .table none []

def entriesOf : Option Value → Table
  | some (.table _ entries) => entries
  | _ => []

def tableOrigin : Option Value → Origin
  | some (.table origin _) => origin
  | _ => none

mutual

def laidOver (lower : Option Value) : Value → Value
  | .table _ entries => .table (tableOrigin lower) (laidOverEach (entriesOf lower) entries)
  | v => v

def laidOverEach (lower : Table) : Table → Table
  | [] => lower
  | (key, v) :: rest => laidOverEach (Table.put key (laidOver (lower.lookup key) v) lower) rest

end

-- A value laid over what may stand at a path. Tables are made on the way to it.
def laidAt (lower : Option Value) (v : Value) : List String → Value
  | [] => laidOver lower v
  | key :: path =>
    let below := entriesOf lower
    .table (tableOrigin lower) (Table.put key (laidAt (below.lookup key) v path) below)

end Value

def isKeyChar (c : Char) : Bool := c.isAlphanum || c == '_' || c == '-'

def keyPath (key : String) : List String :=
  let path := key.splitOn "."
  if path.all fun name => !name.isEmpty && name.toList.all isKeyChar then path else [key]

-- The settings of one source, laid over those of the sources below it.
def layer (lower : Value) (source : Table) : Value :=
  source.foldl (fun v entry => Value.laidAt (some v) entry.2 (keyPath entry.1)) lower

def merge (sources : List Table) : Value := sources.foldl layer Value.emptyTable

end DoubleEntry.Config
