import DoubleEntry.Ledger.Account

/-!
SQL statements as data, and their text. Parameters are numbered in the order in which they stand in the text;
their values go beside it.
-/

set_option autoImplicit false

namespace DoubleEntry.Sql

open Time (Stamp)

inductive Param where
  | bigint (n : Int)
  | limit (n : Nat)
  | decimal (d : Decimal)
  | text (s : String)
  | timestamp (t : Stamp)
  | timestampUtc (t : Stamp)
  | now
deriving DecidableEq

structure Table where
  name : String
deriving DecidableEq, Repr

structure Column where
  table : Table
  name : String
deriving DecidableEq, Repr

inductive Condition where
  | equals (c : Column) (p : Param)
  | atLeast (c : Column) (p : Param)
  | among (c : Column) (ps : List Param)
deriving DecidableEq

inductive Assignment where
  | set (c : Column) (p : Param)
  | increase (c : Column) (p : Param)
  | decrease (c : Column) (p : Param)
deriving DecidableEq

inductive Statement where
  | select (columns : List Column) (table : Table) (conditions : List Condition)
      (order : Option Column) (limit : Option Nat)
  | insert (table : Table) (values : List (Column × Param)) (returning : List Column)
  | update (table : Table) (assignments : List Assignment) (conditions : List Condition)
  | delete (table : Table) (conditions : List Condition)
  | script (text : String)
deriving DecidableEq

def quoted (name : String) : String := "\"" ++ name ++ "\""

inductive Style where
  | qualified
  | bare
deriving DecidableEq, Repr

def Column.text (c : Column) : Style → String
  | .qualified => quoted c.table.name ++ "." ++ quoted c.name
  | .bare => quoted c.name

def Condition.params : Condition → List Param
  | equals _ p => [p]
  | atLeast _ p => [p]
  | among _ ps => ps

def Assignment.param : Assignment → Param
  | set _ p | increase _ p | decrease _ p => p

namespace Statement

def commaList (parts : List String) : String := ", ".intercalate parts

def placeholder (n : Nat) : String := s!"${n}"

def placeholders (first count : Nat) : List String := (List.range' first count).map placeholder

def conditionText (style : Style) (first : Nat) : Condition → String
  | .equals c _ => c.text style ++ " = " ++ placeholder first
  | .atLeast c _ => c.text style ++ " >= " ++ placeholder first
  | .among c ps => c.text style ++ " IN (" ++ commaList (placeholders first ps.length) ++ ")"

def conditionTexts (style : Style) : Nat → List Condition → List String
  | _, [] => []
  | first, c :: rest =>
    conditionText style first c :: conditionTexts style (first + c.params.length) rest

def whereText (style : Style) (first : Nat) (conditions : List Condition) : String :=
  if conditions.isEmpty then ""
  else " WHERE " ++ " AND ".intercalate (conditionTexts style first conditions)

def assignmentText (first : Nat) : Assignment → String
  | .set c _ => quoted c.name ++ " = " ++ placeholder first
  | .increase c _ => quoted c.name ++ " = " ++ quoted c.name ++ " + " ++ placeholder first
  | .decrease c _ => quoted c.name ++ " = " ++ quoted c.name ++ " - " ++ placeholder first

def assignmentTexts : Nat → List Assignment → List String
  | _, [] => []
  | first, a :: rest => assignmentText first a :: assignmentTexts (first + 1) rest

def conditionParams (conditions : List Condition) : List Param := conditions.flatMap Condition.params

def params : Statement → List Param
  | select _ _ conditions _ limit => conditionParams conditions ++ (limit.map Param.limit).toList
  | insert _ values _ => values.map Prod.snd
  | update _ assignments conditions => assignments.map Assignment.param ++ conditionParams conditions
  | delete _ conditions => conditionParams conditions
  | script _ => []

def text (style : Style) : Statement → String
  | select columns table conditions order limit =>
    let used := (conditionParams conditions).length
    "SELECT " ++ commaList (columns.map fun c => c.text style) ++ " FROM " ++ quoted table.name ++
      whereText style 1 conditions ++
      (match order with
        | some c => " ORDER BY " ++ c.text style ++ " ASC"
        | none => "") ++
      (match limit with
        | some _ => " LIMIT " ++ placeholder (used + 1)
        | none => "")
  | insert table values returning =>
    "INSERT INTO " ++ quoted table.name ++ " (" ++
      commaList (values.map fun v => quoted v.1.name) ++ ") VALUES (" ++
      commaList (placeholders 1 values.length) ++ ") RETURNING " ++
      commaList (returning.map fun c => quoted c.name)
  | update table assignments conditions =>
    "UPDATE " ++ quoted table.name ++ " SET " ++ commaList (assignmentTexts 1 assignments) ++
      whereText style (assignments.length + 1) conditions
  | delete table conditions =>
    "DELETE FROM " ++ quoted table.name ++ whereText style 1 conditions
  | script text => text

end Statement
end DoubleEntry.Sql
