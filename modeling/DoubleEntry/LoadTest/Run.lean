import DoubleEntry.LoadTest.Report
import DoubleEntry.LoadTest.Settings
import DoubleEntry.LoadTest.Tour
import DoubleEntry.Session

/-!
A load test: accounts are opened, then transfers go round them, each phase with so many requests under way
at once. Which of those is answered next is for the service to say, so a run is given the picks. A service is
whatever answers requests; one of them is a ledger in memory behind its routes.
-/

set_option autoImplicit false

namespace DoubleEntry.LoadTest

open Time (Span)

structure Plan where
  endpoint : String
  body : String
deriving DecidableEq, Repr

def accountsEndpoint : String := "/accounts"
def transactionsEndpoint : String := "/transactions"

def transferAmount : String := "10"

abbrev Opening := Fin (tenTo 9)

def Opening.balance (o : Opening) : Decimal :=
  ⟨false, o.val, 5, Nat.lt_trans o.isLt (by decide), by decide⟩

def openAccount (id : AccountId) (o : Opening) : Plan :=
  { endpoint := accountsEndpoint
    body := Json.objectJson
      [("account_id", Json.intJson id), ("initial_balance", Json.textJson o.balance.toText)] }

def makeTransfer (source destination : AccountId) : Plan :=
  { endpoint := transactionsEndpoint
    body := Json.objectJson
      [("amount", Json.textJson transferAmount), ("destination_account_id", Json.intJson destination),
       ("source_account_id", Json.intJson source)] }

def openings (ids : List AccountId) (balances : Nat → Opening) : List Plan :=
  ids.mapIdx fun i id => openAccount id (balances i)

def transfers (ids : List AccountId) (count : Nat) : Except ArithmeticError (List Plan) :=
  (List.range count).mapM fun i =>
    (transferPair ids i).map fun (source, destination) => makeTransfer source destination

structure Attempt where
  latency : Span
  response : Except String Http.Response

abbrev Service (σ : Type) := Plan → σ → Attempt × σ

-- Only a creation is a success. The body of any other response says what went wrong.
def Plan.outcome (p : Plan) (a : Attempt) : Outcome :=
  match a.response with
  | .ok r =>
    let success := r.status == 201
    ⟨p.endpoint, a.latency, some r.status, success, if success then none else some r.body⟩
  | .error detail => ⟨p.endpoint, a.latency, none, false, some detail⟩

-- Posts a number of requests with at most `width` under way, of which `picks` tells the next to be answered.
-- Outcomes come in the order of the answers.
def postFrom {σ : Type} (service : Service σ) (width : Nat) (picks : Nat → Nat) :
    Nat → List Plan → σ → List Outcome × σ
  | 0, _, s => ([], s)
  | left + 1, pending, s =>
    let turn := picks left % min width pending.length
    match (pending.take width)[turn]? with
    | none => ([], s)
    | some plan =>
      let (attempt, s) := service plan s
      let (outcomes, s) := postFrom service width picks left (pending.eraseIdx turn) s
      (plan.outcome attempt :: outcomes, s)

def post {σ : Type} (service : Service σ) (width : Nat) (picks : Nat → Nat) (plans : List Plan) (s : σ) :
    List Outcome × σ :=
  postFrom service width picks plans.length plans s

def createAccounts {σ : Type} (service : Service σ) (width : Nat) (picks : Nat → Nat)
    (balances : Nat → Opening) (ids : List AccountId) (s : σ) : List Outcome × σ :=
  post service width picks (openings ids balances) s

def performTransfers {σ : Type} (service : Service σ) (width : Nat) (picks : Nat → Nat)
    (ids : List AccountId) (count : Nat) (s : σ) : Except ArithmeticError (List Outcome × σ) :=
  (transfers ids count).map fun plans => post service width picks plans s

def Plan.request (p : Plan) : Http.Request :=
  ⟨"POST", p.endpoint, [Http.Response.jsonHeader], Text.encode p.body⟩

def ledger : Service Store := fun plan store =>
  match Session.runStep none store 0 (.request plan.request) with
  | (⟨.response r, _, _, _⟩, store) => (⟨Span.zero, .ok r⟩, store)
  | (_, store) => (⟨Span.zero, .error "no response"⟩, store)

def unreachable (baseUrl : String) : Service Unit := fun plan s =>
  (⟨Span.zero, .error ("error sending request for url (" ++ baseUrl ++ plan.endpoint ++ ")")⟩, s)

inductive Refusal where
  | config (e : Config.ConfigError)
  | noAccounts
  | noConcurrency
  | arithmetic (e : ArithmeticError)

def Refusal.message : Refusal → String
  | config e => e.message
  | noAccounts => "LOADTEST_ACCOUNTS must be positive"
  | noConcurrency => "LOADTEST_CONCURRENCY must be positive"
  | arithmetic e => e.message

structure Transcript where
  lines : List String
  refusal : Option Refusal

def Settings.refusal? (s : Settings) : Option Refusal :=
  if s.accounts ≤ 0 then some .noAccounts
  else if s.concurrency = 0 then some .noConcurrency
  else none

-- Consecutive ids, all of which have to fit a word with a sign.
def accountIds (s : Settings) : Except ArithmeticError (List AccountId) :=
  if Text.isInt64 (s.firstAccountId + s.accounts) then
    .ok ((List.range s.accounts.toNat).map fun i : Nat => s.firstAccountId + (i : Int))
  else .error .addition

def announceTransfers (ids : List AccountId) (s : Settings) : List String :=
  if 1 < ids.length then ["Performing " ++ toString s.transfers ++ " transfers..."] else []

def phases {σ : Type} (service : Service σ) (picks : Nat → Nat) (balances : Nat → Opening) (s : Settings)
    (ids : List AccountId) (start : σ) : Except ArithmeticError (List Outcome) := do
  let (opened, after) := createAccounts service s.concurrency picks balances ids start
  if 1 < ids.length then
    let (moved, _) ← performTransfers service s.concurrency picks ids s.transfers after
    return opened ++ moved
  else return opened

def run {σ : Type} (service : Service σ) (picks : Nat → Nat) (balances : Nat → Opening) (elapsed : Span)
    (s : Settings) (start : σ) : Transcript :=
  match s.refusal? with
  | some refusal => ⟨[], some refusal⟩
  | none =>
    let opening := ["Starting load test against " ++ s.baseUrl ++ "...",
      "Creating " ++ toString s.accounts ++ " accounts..."]
    match accountIds s with
    | .error e => ⟨opening, some (.arithmetic e)⟩
    | .ok ids =>
      let opening := opening ++ announceTransfers ids s
      match phases service picks balances s ids start with
      | .error e => ⟨opening, some (.arithmetic e)⟩
      | .ok outcomes =>
        let finished := opening ++ ["", "Load test finished."]
        match summary outcomes with
        | .error e => ⟨finished ++ overallLines outcomes elapsed, some (.arithmetic e)⟩
        | .ok _ => ⟨finished ++ reportLines outcomes elapsed, none⟩

end DoubleEntry.LoadTest
