import DoubleEntry.Http.MediaType
import DoubleEntry.Http.Message
import DoubleEntry.Http.Path
import DoubleEntry.Http.Response
import DoubleEntry.Ledger.Operations

/-!
The routes of the service. A request is checked from the outside in: its path and method, the type and size
of its body, the JSON in it, and its fields one after another; only then is the ledger asked. Around the
routes, each request gets an id, a span in the log and the headers that browsers need from other origins.
-/

set_option autoImplicit false

namespace DoubleEntry.Http

open Text (Bytes)

structure Request where
  method : String
  target : String
  headers : Headers
  body : Bytes

namespace Request

def header? (r : Request) (name : String) : Option String :=
  (r.headers.find? fun h => h.1.toLower == name).map Prod.snd

def path (r : Request) : String := (Target.ofText r.target).path

def uri (r : Request) : String := (Target.ofText r.target).text

end Request

def bodyLimit : Nat := 2097152

inductive Route where
  | health
  | accounts
  | balance (id : String)
  | entries (id : String)
  | transactions
deriving DecidableEq, Repr

namespace Route

def ofPath? (path : String) : Option Route :=
  match segments path with
  | ["", "health"] => some health
  | ["", "accounts"] => some accounts
  | ["", "accounts", id] => if id.isEmpty then none else some (balance id)
  | ["", "accounts", id, "entries"] => some (entries id)
  | ["", "transactions"] => some transactions
  | _ => none

def isWrite : Route → Bool
  | accounts | transactions => true
  | _ => false

def allowed (r : Route) : String := if r.isWrite then "POST" else "GET,HEAD"

def admits (r : Route) (method : String) : Bool :=
  if r.isWrite then method == "POST" else method == "GET" || method == "HEAD"

end Route

inductive BodyError where
  | notJson
  | tooLong
  | malformed (message : String)
  | misfit (message : String)
deriving DecidableEq, Repr

def BodyError.message : BodyError → String
  | .notJson => "Expected request with \x60Content-Type: application/json\x60"
  | .tooLong => "Failed to buffer the request body: length limit exceeded"
  | .malformed message => "Failed to parse the request body as JSON: " ++ message
  | .misfit message => "Failed to deserialize the JSON body into the target type: " ++ message

def BodyError.ofJson (body : Bytes) (e : Json.Error) : BodyError :=
  if e.cause.isContent then .misfit (e.messageWithPath body) else .malformed (e.messageWithPath body)

def readBody (r : Request) (read : Json.Reader Json.Datum) : Except BodyError Json.Datum :=
  if !(r.header? "content-type").any announcesJson then .error .notJson
  else if bodyLimit < r.body.length then .error .tooLong
  else (Json.readAll read r.body).mapError (BodyError.ofJson r.body)

abbrev Checked (α : Type) := Except AppError α

def requireId (field : String) : Option Int → Checked AccountId
  | none => .error (.validation (field ++ " is required"))
  | some id => if 1 ≤ id then .ok id else .error (.validation (field ++ " must be at least 1"))

def requireAmount (field : String) : Option String → Checked Decimal
  | none => .error (.validation (field ++ " is required"))
  | some text => (Amount.parse text).mapError fun e => .validation (field ++ ": " ++ e.message)

def AccountRequest.check (r : AccountRequest) : Checked NewAccount := do
  let id ← requireId "account_id" r.id
  let initialBalance ← requireAmount "initial_balance" r.initialBalance
  return { id, initialBalance }

def TransferRequest.check (r : TransferRequest) : Checked Transfer := do
  let source ← requireId "source_account_id" r.source
  let destination ← requireId "destination_account_id" r.destination
  let amount ← requireAmount "amount" r.amount
  return { source, destination, amount }

def decodeBody {α β : Type} (r : Request) (read : Json.Reader Json.Datum) (ofDatum? : Json.Datum → Option α)
    (check : α → Checked β) : Checked β := do
  let datum ← (readBody r read).mapError fun e => .validation e.message
  match ofDatum? datum with
  | some a => check a
  | none => .error (.internal "unexpected body")

def decodeAccount (r : Request) : Checked NewAccount :=
  decodeBody r AccountRequest.read AccountRequest.ofDatum? AccountRequest.check

def decodeTransfer (r : Request) : Checked Transfer :=
  decodeBody r TransferRequest.read TransferRequest.ofDatum? TransferRequest.check

def pathId (raw : String) : Checked AccountId :=
  match ((decodeParam? raw).bind fun text => Text.int64? text.toList).filter (1 ≤ ·) with
  | some id => .ok id
  | none => .error (.validation "invalid account id")

def respond {α : Type} (succeeded : α → Program Response) : Except LedgerError α → Program Response
  | .ok a => succeeded a
  | .error e => Response.fail e

def checked {α : Type} (c : Checked α) (next : α → Task Response) : Task Response :=
  match c with
  | .ok a => next a
  | .error e => .unlimited (Response.refuse e)

def accountLog (a : Account) : LogLine :=
  .event .info "Account created" [("account_id", toString a.id), ("balance", a.balance.toText)]

def transferLog (t : Transfer) : LogLine :=
  .event .info "Transfer created"
    [("source_account_id", toString t.source), ("destination_account_id", toString t.destination),
     ("amount", t.amount.toText)]

def postAccount (limit : Option Nat) (r : Request) : Task Response :=
  checked (decodeAccount r) fun input =>
    (Ledger.createAccount limit input).bind
      (respond fun account => .log (accountLog account) (.done Response.created))

def postTransfer (limit : Option Nat) (r : Request) : Task Response :=
  checked (decodeTransfer r) fun input =>
    (Ledger.createTransfer limit input).bind
      (respond fun _ => .log (transferLog input) (.done Response.created))

def getBalance (raw : String) : Task Response :=
  checked (pathId raw) fun id =>
    (Ledger.getBalance id).bind
      (respond fun account => .done (Response.json 200 (BalanceBody.ofAccount account).toJson))

def entriesResponse (id : AccountId) (entries : List Entry) : Response :=
  { Response.json 200 (EntriesBody.ofEntries id entries).toJson with
    timed := entries.any fun e => e.created.isTick }

def getEntries (raw : String) : Task Response :=
  checked (pathId raw) fun id =>
    (Ledger.listEntries id).bind (respond fun entries => .done (entriesResponse id entries))

def version : String := "0.1.0"

def health : Response :=
  .json 200 (Json.objectJson [("status", Json.textJson "healthy"), ("version", Json.textJson version)])

def notFound (r : Request) : Task Response :=
  .unlimited (Response.refuse (.notFound ("No route for " ++ r.uri)))

def notAllowed (route : Route) : Response := ⟨405, [("allow", route.allowed)], "", false⟩

def dispatch (limit : Option Nat) (r : Request) : Task Response :=
  match Route.ofPath? r.path with
  | none => notFound r
  | some route =>
    if !route.admits r.method then .unlimited (.done (notAllowed route))
    else
      match route with
      | .health => .unlimited (.done health)
      | .accounts => postAccount limit r
      | .balance id => getBalance id
      | .entries id => getEntries id
      | .transactions => postTransfer limit r

def requestIdName : String := "x-request-id"

-- Stands for an id that was made up.
def generatedId : String := "<generated>"

def requestId (r : Request) : String := (r.header? requestIdName).getD generatedId

def shownRequestId (r : Request) : String :=
  let id := requestId r
  if id.toList.all isVisibleAscii then id else "-"

def requestSpan (r : Request) : LogLine :=
  .span "request" [("method", r.method), ("uri", r.uri), ("request_id", shownRequestId r)]

def originHeaders : Headers :=
  [("access-control-allow-origin", "*"),
   ("vary", "origin, access-control-request-method, access-control-request-headers")]

-- Stands for a length that depends on how many digits the clock shows.
def varyingLength : String := "<varies>"

def isEntriesPath (path : String) : Bool :=
  (segments path).getLast? == some "entries"

def lengthText (r : Request) (response : Response) : String :=
  if response.timed || (r.method == "HEAD" && isEntriesPath r.path) then varyingLength
  else toString response.body.utf8ByteSize

def sorted (headers : Headers) : Headers := headers.mergeSort fun a b => decide (a.1 ≤ b.1)

/-- An answer with all its headers, in order of their names, and without a body where only the head was
asked for. -/
def decorate (r : Request) (response : Response) : Response :=
  { response with
    headers := sorted (response.headers ++ originHeaders ++
      [("content-length", lengthText r response), (requestIdName, requestId r)])
    body := if r.method == "HEAD" then "" else response.body }

def preflight (r : Request) : Response :=
  let allow := match Route.ofPath? r.path with
    | some route => [("allow", route.allowed)]
    | none => []
  { status := 200
    headers := sorted (originHeaders ++ allow ++
      [("access-control-allow-headers", "*"), ("access-control-allow-methods", "*"),
       ("content-length", "0")])
    body := ""
    timed := false }

def handle (limit : Option Nat) (r : Request) : Task Response :=
  if r.method == "OPTIONS" then .unlimited (.done (preflight r))
  else ((dispatch limit r).map (decorate r)).logFirst (requestSpan r)

end DoubleEntry.Http
