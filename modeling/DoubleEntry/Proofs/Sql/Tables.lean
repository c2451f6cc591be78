import DoubleEntry.Decimal.Rounding
import DoubleEntry.Sql.Connection

/-!
What the ledger's statements mean. A table is a list of rows, a row gives values to columns, and a value that is
missing is null: no comparison with it is true, and no column takes it. Each statement leads to tables that satisfy
the schema, or is refused.
-/

set_option autoImplicit false

namespace DoubleEntry.Sql

open Time (Moment Stamp)

inductive Value where
  | int (n : Int)
  | numeric (mantissa : Int) (scale : Nat)
  | timestamp (m : Moment)
deriving DecidableEq

namespace Value

-- Numbers are compared as numbers, whatever their scales are.
def le : Value → Value → Bool
  | int a, int b => a ≤ b
  | numeric a s, numeric b t => a * tenTo t ≤ b * tenTo s
  | timestamp a, timestamp b => a.seconds < b.seconds || (a.seconds == b.seconds && a.nanos ≤ b.nanos)
  | _, _ => false

def same (a b : Value) : Bool := a.le b && b.le a

def plus (sign : Int) : Value → Value → Option Value
  | int a, int b => some (int (a + sign * b))
  | numeric a s, numeric b t =>
    some (numeric (a * tenTo (max s t - s) + sign * b * tenTo (max s t - t)) (max s t))
  | _, _ => none

-- What a client reads; a number that no decimal holds is not read at all.
def cell? : Value → Option Cell
  | int n => some (.int n)
  | numeric m s => (Decimal.of? (decide (m < 0)) m.natAbs s).map .decimal
  | timestamp m => some (.timestamp m)

end Value

def Param.value? (now : Moment) : Param → Option Value
  | bigint n => some (.int n)
  | limit n => some (.int n)
  | decimal d => some (.numeric d.signed d.scale)
  | timestamp (.moment m) | timestampUtc (.moment m) => some (.timestamp m)
  | timestamp (.tick _) | timestampUtc (.tick _) => none
  | text _ => none
  | .now => some (.timestamp now)

abbrev Tuple := List (Column × Value)

abbrev Tables := Table → List Tuple

structure Refusal where
  state : String
  detail : String

namespace Refusal

def notNull (c : Column) : Refusal :=
  ⟨"23502", s!"null value in column {quoted c.name} of relation {quoted c.table.name} violates not-null constraint"⟩

def check (table : Table) (name : String) : Refusal :=
  ⟨"23514", s!"new row for relation {quoted table.name} violates check constraint {quoted name}"⟩

def unique (table : Table) : Refusal :=
  let key := quoted (table.name ++ "_pkey")
  ⟨SqlError.uniqueViolation, s!"duplicate key value violates unique constraint {key}"⟩

def reference (c : Column) : Refusal :=
  ⟨"23503", s!"insert or update on table {quoted c.table.name} violates foreign key constraint " ++
    quoted (c.table.name ++ "_" ++ c.name ++ "_fkey")⟩

def outOfRange : Refusal := ⟨"22003", "numeric field overflow"⟩
def mismatch : Refusal := ⟨"42804", "column and expression are of different types"⟩
def noTable (table : Table) : Refusal := ⟨"42P01", s!"relation {quoted table.name} does not exist"⟩
def notSupported : Refusal := ⟨"0A000", "scripts are not supported"⟩

def aborted : Refusal :=
  ⟨"25P02", "current transaction is aborted, commands ignored until end of transaction block"⟩

end Refusal

inductive ColumnType where
  | bigint
  -- Counted up without an end.
  | bigserial
  | numeric (precision scale : Nat)
  | timestamptz
deriving DecidableEq

-- A half is rounded away from zero.
def rescaled (m : Int) (scale target : Nat) : Int :=
  if scale ≤ target then m * tenTo (target - scale)
  else
    let magnitude : Int := roundHalfUp m.natAbs (tenTo (scale - target))
    if m < 0 then -magnitude else magnitude

def ColumnType.keep : ColumnType → Value → Except Refusal Value
  | bigint, .int n =>
    if -(twoTo 63 : Int) ≤ n ∧ n < (twoTo 63 : Int) then .ok (.int n) else .error .outOfRange
  | bigserial, .int n => .ok (.int n)
  | numeric precision scale, .numeric m s =>
    let kept := rescaled m s scale
    if kept.natAbs < tenTo precision then .ok (.numeric kept scale) else .error .outOfRange
  | timestamptz, .timestamp m => .ok (.timestamp m)
  | _, _ => .error .mismatch

structure ColumnDef where
  column : Column
  type : ColumnType
  hasClock : Bool

-- A number that has to be above zero, or at least zero.
structure Check where
  name : String
  column : Column
  strict : Bool

structure TableDef where
  table : Table
  columns : List ColumnDef
  key : Column
  checks : List Check
  -- A column and the key that its values are among.
  references : List (Column × Column)

def accountsDef : TableDef :=
  { table := accounts
    columns :=
      [⟨AccountColumn.id, .bigint, false⟩, ⟨AccountColumn.balance, .numeric 30 5, false⟩,
       ⟨AccountColumn.created, .timestamptz, true⟩, ⟨AccountColumn.modified, .timestamptz, true⟩]
    key := AccountColumn.id
    checks :=
      [⟨"chk_account_id_positive", AccountColumn.id, true⟩,
       ⟨"chk_balance_non_negative", AccountColumn.balance, false⟩]
    references := [] }

def ledgerEntriesDef : TableDef :=
  { table := ledgerEntries
    columns :=
      [⟨EntryColumn.id, .bigserial, false⟩, ⟨EntryColumn.account, .bigint, false⟩,
       ⟨EntryColumn.amount, .numeric 30 5, false⟩, ⟨EntryColumn.created, .timestamptz, true⟩]
    key := EntryColumn.id
    checks := []
    references := [(EntryColumn.account, AccountColumn.id)] }

def schema : List TableDef := [accountsDef, ledgerEntriesDef]

-- A comparison of values that may be null.
def compared (test : Value → Value → Bool) : Option Value → Option Value → Bool
  | some a, some b => test a b
  | _, _ => false

def Check.holds (check : Check) (row : Tuple) : Bool :=
  match row.lookup check.column with
  | some (.int n) => if check.strict then 0 < n else 0 ≤ n
  | some (.numeric m _) => if check.strict then 0 < m else 0 ≤ m
  | _ => false

namespace TableDef

def isKeyed (d : TableDef) (rows : List Tuple) : Bool :=
  decide (rows.Pairwise fun a b => compared Value.same (a.lookup d.key) (b.lookup d.key) = false)

def refers (tables : Tables) (row : Tuple) (reference : Column × Column) : Bool :=
  (tables reference.2.table).any fun other => compared Value.same (row.lookup reference.1) (other.lookup reference.2)

def violation? (d : TableDef) (tables : Tables) : Option Refusal :=
  let rows := tables d.table
  match d.checks.find? fun check => !rows.all check.holds with
  | some check => some (.check d.table check.name)
  | none =>
    if !d.isKeyed rows then some (.unique d.table)
    else
      (d.references.find? fun reference => !rows.all fun row => refers tables row reference).map fun reference =>
        .reference reference.1

def row (d : TableDef) (values : ColumnDef → Option Value) : Except Refusal Tuple :=
  d.columns.mapM fun c =>
    match values c with
    | some value => (c.type.keep value).map fun value => (c.column, value)
    | none => .error (.notNull c.column)

end TableDef

-- The tables are as the schema wants them, or the first thing that is wrong is told.
def sound (tables : Tables) : Except Refusal Tables :=
  match schema.findSome? fun d => d.violation? tables with
  | some refusal => .error refusal
  | none => .ok tables

namespace Tables

def set (tables : Tables) (table : Table) (rows : List Tuple) : Tables := fun other =>
  if other = table then rows else tables other

end Tables

def Condition.holds (now : Moment) (row : Tuple) : Condition → Bool
  | equals c p => compared Value.same (row.lookup c) (p.value? now)
  | atLeast c p => compared Value.le (p.value? now) (row.lookup c)
  | among c ps => ps.any fun p => compared Value.same (row.lookup c) (p.value? now)

def meets (now : Moment) (conditions : List Condition) (row : Tuple) : Bool :=
  conditions.all fun condition => condition.holds now row

-- What a column gets, from the row as it was.
def Assignment.assigned? (now : Moment) (row : Tuple) (column : Column) : Assignment → Option (Option Value)
  | set c p => if c = column then some (p.value? now) else none
  | increase c p => if c = column then some (changed 1 p) else none
  | decrease c p => if c = column then some (changed (-1) p) else none
where
  changed (sign : Int) (p : Param) : Option Value :=
    (row.lookup column).bind fun old => (p.value? now).bind fun by_ => old.plus sign by_

def updated (now : Moment) (assignments : List Assignment) (row : Tuple) (c : ColumnDef) : Option Value :=
  (assignments.findSome? fun a => a.assigned? now row c.column).getD (row.lookup c.column)

-- What is given for a column, or else its default.
def given (now : Moment) (number : Nat) (values : List (Column × Param)) (c : ColumnDef) : Option Value :=
  match values.lookup c.column with
  | some p => p.value? now
  | none =>
    if c.type = .bigserial then some (.int number)
    else if c.hasClock then some (.timestamp now)
    else none

def shown (columns : List Column) (row : Tuple) : Row :=
  columns.filterMap fun c => ((row.lookup c).bind Value.cell?).map fun cell => (c.name, cell)

def sorted (order : Option Column) (rows : List Tuple) : List Tuple :=
  match order with
  | some c => rows.mergeSort fun a b => compared Value.le (a.lookup c) (b.lookup c)
  | none => rows

def limited (limit : Option Nat) (rows : List Tuple) : List Tuple :=
  match limit with
  | some n => rows.take n
  | none => rows

structure Executed where
  tables : Tables
  rows : List Row
  affected : Nat

def onTable (table : Table) (work : TableDef → Except Refusal Executed) : Except Refusal Executed :=
  match schema.find? fun d => d.table == table with
  | some d => work d
  | none => .error (.noTable table)

def Tables.execute (tables : Tables) (now : Moment) (number : Nat) : Statement → Except Refusal Executed
  | .select columns table conditions order limit =>
    onTable table fun _ =>
      let rows := limited limit (sorted order ((tables table).filter (meets now conditions)))
      .ok ⟨tables, rows.map (shown columns), rows.length⟩
  | .insert table values returning =>
    onTable table fun d => do
      let row ← d.row (given now number values)
      let after ← sound (tables.set table (tables table ++ [row]))
      return ⟨after, [shown returning row], 1⟩
  | .update table assignments conditions =>
    onTable table fun d => do
      let rows ← (tables table).mapM fun row =>
        if meets now conditions row then d.row (updated now assignments row) else .ok row
      let after ← sound (tables.set table rows)
      return ⟨after, [], (tables table).countP (meets now conditions)⟩
  | .delete table conditions =>
    onTable table fun _ => do
      let after ← sound (tables.set table ((tables table).filter fun row => !meets now conditions row))
      return ⟨after, [], (tables table).countP (meets now conditions)⟩
  | .script _ => .error .notSupported

-- A number is drawn for a row even if the row is refused then.
def Statement.draws : Statement → Bool
  | insert table values _ =>
    schema.any fun d => d.table == table && d.columns.any fun c =>
      c.type == .bigserial && (values.lookup c.column).isNone
  | _ => false

end DoubleEntry.Sql
