import DoubleEntry.AppError
import DoubleEntry.Json.Writer
import DoubleEntry.Ledger.Error
import DoubleEntry.Ledger.Program

/-!
Answers to requests. An error is an object with its code and its message. What went wrong inside of the
service is logged and not shown; a deadline that passed is shown, since the client may try again.
-/

set_option autoImplicit false

namespace DoubleEntry.Http

abbrev Headers := List (String × String)

structure Response where
  status : Nat
  headers : Headers
  body : String
  timed : Bool
deriving DecidableEq, Repr

namespace Response

def jsonHeader : String × String := ("content-type", "application/json")

def json (status : Nat) (body : String) : Response := ⟨status, [jsonHeader], body, false⟩

def created : Response := ⟨201, [], "", false⟩

def errorBody (code message : String) : String :=
  Json.objectJson [("error", Json.textJson code), ("message", Json.textJson message)]

def ofAppError (e : AppError) : Response := json e.status (errorBody e.code e.publicMessage)

def isHidden (e : LedgerError) : Bool := 500 ≤ e.status && !e.isRetryable

def ofLedgerError (e : LedgerError) : Response :=
  if isHidden e then ofAppError (.internal e.message) else json e.status (errorBody e.code e.message)

def appErrorLog (e : AppError) : Option LogLine :=
  if 500 ≤ e.status then some (.event .error "Request failed" [("error", e.message)]) else none

def ledgerErrorLog (e : LedgerError) : Option LogLine :=
  if isHidden e then some (.event .error "Ledger operation failed" [("error", e.message)]) else none

def logged (line : Option LogLine) (r : Response) : Program Response :=
  match line with
  | some line => .log line (.done r)
  | none => .done r

def refuse (e : AppError) : Program Response := logged (appErrorLog e) (ofAppError e)

def fail (e : LedgerError) : Program Response := logged (ledgerErrorLog e) (ofLedgerError e)

end Response
end DoubleEntry.Http
