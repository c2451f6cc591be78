import DoubleEntry.Config.Settings
import DoubleEntry.Http.Line
import DoubleEntry.LoadTest.Run

/-!
The command line. `serve` answers requests, one on a line, from a ledger in memory; `loadtest` tries such a
ledger out and prints what came of it. Settings come from the environment.
-/

set_option autoImplicit false

namespace DoubleEntry.Main

def variableNames : List String :=
  ["RUN_MODE", "TRANSFER__SERVER__HOST", "TRANSFER__SERVER__PORT",
   "TRANSFER__SERVER__SHUTDOWN_TIMEOUT_SECS", "TRANSFER__DATABASE__URL",
   "TRANSFER__DATABASE__MAX_CONNECTIONS", "TRANSFER__DATABASE__MIN_CONNECTIONS",
   "TRANSFER__DATABASE__ACQUIRE_TIMEOUT_SECS", "TRANSFER__DATABASE__RUN_MIGRATIONS",
   "TRANSFER__LEDGER__OPERATION_TIMEOUT_MS", "TRANSFER__LOG__FILTER", "TRANSFER__LOG__JSON",
   "LOADTEST_BASE_URL", "LOADTEST_ACCOUNTS", "LOADTEST_FIRST_ACCOUNT_ID", "LOADTEST_TRANSFERS",
   "LOADTEST_CONCURRENCY", "LOADTEST_REQUEST_TIMEOUT_SECS"]

def readEnvironment : IO Config.Environment :=
  variableNames.filterMapM fun name => do return (← IO.getEnv name).map fun text => (name, text)

def fail (message : String) : IO UInt32 := do
  IO.eprintln ("Error: " ++ message)
  return 1

partial def serve (input output : IO.FS.Stream) (limit : Option Nat) (index : Nat) (store : Store) :
    IO Unit := do
  let line ← input.getLine
  if line.isEmpty then return
  let (report, store) := Session.runStep limit store index (.request (Http.Request.ofLine line))
  match report.answer with
  | .response r => output.putStrLn r.toLine
  | _ => output.putStrLn "503"
  output.flush
  serve input output limit (index + 1) store

def opening (seeds : Nat → Nat) (i : Nat) : LoadTest.Opening := ⟨seeds i % tenTo 9, Nat.mod_lt _ (ten_to_pos 9)⟩

def loadTest (environment : Config.Environment) : IO UInt32 := do
  match LoadTest.load environment with
  | .error e => fail e.message
  | .ok settings =>
    let seed ← IO.rand 1 (tenTo 9)
    let transcript := LoadTest.run LoadTest.ledger (fun _ => 0) (opening fun i => (i + 1) * seed)
      Time.Span.zero settings Store.empty
    for line in transcript.lines do IO.println line
    match transcript.refusal with
    | some refusal => fail refusal.message
    | none => return 0

end DoubleEntry.Main

open DoubleEntry in
def main (arguments : List String) : IO UInt32 := do
  let environment ← Main.readEnvironment
  match arguments with
  | ["serve"] =>
    match Config.load [] environment with
    | .error e => Main.fail e.message
    | .ok settings =>
      Main.serve (← IO.getStdin) (← IO.getStdout) settings.ledger.operationTimeoutMs 0 Store.empty
      return 0
  | ["loadtest"] => Main.loadTest environment
  | _ => Main.fail "expected serve or loadtest"
