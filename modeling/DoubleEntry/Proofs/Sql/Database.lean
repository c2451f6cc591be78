import DoubleEntry.Proofs.Sql.Server
import DoubleEntry.Proofs.Sql.Tables

/-!
A database with one client. A unit of work sees the tables as they were at its beginning and its own changes to them;
a commit publishes them, and anything else discards them. After a refusal a unit of work can only be ended.
-/

set_option autoImplicit false

namespace DoubleEntry.Sql

open Time (Moment Stamp)

inductive Work where
  | none
  | open (tables : Tables)
  | failed

structure Database where
  published : Tables
  work : Work
  -- The last number that was drawn, whatever became of its row.
  drawn : Nat
  clock : Moment

namespace Database

def empty (clock : Moment) : Database := ⟨fun _ => [], .none, 0, clock⟩

def execute (db : Database) (s : Statement) : Except Refusal Executed × Database :=
  let drawn := if s.draws then db.drawn + 1 else db.drawn
  match db.work with
  | .none =>
    match db.published.execute db.clock drawn s with
    | .ok done => (.ok done, { db with published := done.tables, drawn })
    | .error refusal => (.error refusal, { db with drawn })
  | .open tables =>
    match tables.execute db.clock drawn s with
    | .ok done => (.ok done, { db with work := .open done.tables, drawn })
    | .error refusal => (.error refusal, { db with work := .failed, drawn })
  | .failed => (.error .aborted, db)

def reply (db : Database) : Sent → Reply × Database
  | .begin =>
    match db.work with
    | .none => (.plain, { db with work := .open db.published })
    | _ => (.plain, db)
  | .commit =>
    match db.work with
    | .open tables => (.plain, { db with published := tables, work := .none })
    | _ => (.plain, { db with work := .none })
  | .rollback | .startRollback => (.plain, { db with work := .none })
  | .query _ s =>
    match db.execute s with
    | (.ok done, db) => (.rows done.rows, db)
    | (.error refusal, db) => (.failure (.server true refusal.state refusal.detail), db)
  | .execute _ s =>
    match db.execute s with
    | (.ok done, db) => (.affected done.affected, db)
    | (.error refusal, db) => (.failure (.server false refusal.state refusal.detail), db)

def server : Server Database := ⟨reply, fun db => (.moment db.clock, db)⟩

end Database
end DoubleEntry.Sql
