import DoubleEntry.Http.Router
import DoubleEntry.Store.Schedule

/-!
A session with one store: operations of the ledger, reads and units of work on the store itself, requests
over HTTP, and injected trouble, one step after another or many at once. The clock reads the number of the
step. A step that is not done within an hour is given up.
-/

set_option autoImplicit false

namespace DoubleEntry.Session

open Ledger (Operation Outcome)

inductive Step where
  | operation (o : Operation)
  | read (c : Call)
  | begin (unit : String)
  | inUnit (unit : String) (c : Call)
  | drop (unit : String)
  | control (change : Control → Control)
  | request (r : Http.Request)
  | together (steps : List Step)

instance : Inhabited Step := ⟨.together []⟩

inductive Answer where
  | outcome (o : Outcome)
  | reply (c : Call) (r : Except StoreError c.Reply)
  | dropped
  | changed
  | noUnit (name : String)
  | refused (e : ArithmeticError)
  | response (r : Http.Response)
  | together (answers : List (Answer × Nat))
  | blocked

def callOnly (c : Call) : Program Answer := .call c fun reply => .done (.reply c reply)

def jobs (limit : Option Nat) : Step → List (Job Answer)
  | .operation o => [.task ((o.task limit).map .outcome)]
  | .read c => [.task (.unlimited (callOnly c))]
  | .begin unit => [.openUnit unit (callOnly .begin)]
  | .inUnit unit c => [.onUnit unit (callOnly c) (.noUnit unit)]
  | .drop unit => [.dropUnit unit .dropped (.noUnit unit)]
  | .control change => [.control change .changed]
  | .request r => [.task ((Http.handle limit r).map .response)]
  | .together steps => allJobs steps
where
  allJobs : List Step → List (Job Answer)
    | [] => []
    | step :: steps => jobs limit step ++ allJobs steps

def gather (start : Nat) : Step → List (Answer × Nat) → (Answer × Nat) × List (Answer × Nat)
  | .together steps, answers =>
    let (own, rest) := gatherAll steps answers
    ((.together own, (own.map Prod.snd).foldl max start), rest)
  | _, answer :: rest => (answer, rest)
  | _, [] => ((.blocked, start), [])
where
  gatherAll : List Step → List (Answer × Nat) → List (Answer × Nat) × List (Answer × Nat)
    | [], answers => ([], answers)
    | step :: steps, answers =>
      let (own, answers) := gather start step answers
      let (others, answers) := gatherAll steps answers
      (own :: others, answers)

def patience : Nat := 3600000

structure Report where
  answer : Answer
  time : Nat
  length : Option Nat
  log : List LogLine

def runStep (limit : Option Nat) (store : Store) (index : Nat) (step : Step) : Report × Store :=
  let store := { store with clock := .tick index, log := [] }
  let (results, after) :=
    System.run Answer.refused (store.now + patience) store (jobs limit step)
  let answer := match results with
    | some answers => (gather store.now step answers).1.1
    | none => .blocked
  (⟨answer, after.now, after.length?, after.log.reverse⟩, after)

def runFrom (limit : Option Nat) : Nat → Store → List Step → List Report × Store
  | _, store, [] => ([], store)
  | index, store, step :: steps =>
    let (report, store) := runStep limit store index step
    let (reports, store) := runFrom limit (index + 1) store steps
    (report :: reports, store)

def run (limit : Option Nat) (steps : List Step) : List Report × Store :=
  runFrom limit 0 Store.empty steps

structure Final where
  length : Nat
  accounts : List Account
  entries : List Entry

def final (store : Store) (ids : List AccountId) : Final :=
  let book := store.dropAllUnits.committed
  { length := book.entries.length
    accounts := book.accounts.filter fun a => ids.contains a.id
    entries := book.entries.filter fun e => ids.contains e.account }

end DoubleEntry.Session
