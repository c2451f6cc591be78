import DoubleEntry.Http.Router
import DoubleEntry.Proofs.Ledger.Conduct
import DoubleEntry.Proofs.Program.Solo

/-!
Requests and the ledger's operations behind them. A request either is answered without any call to the store,
or asks for one operation and turns its outcome into a response.
-/

set_option autoImplicit false

namespace DoubleEntry

open Time (Stamp)

namespace Http

open Ledger (Operation Outcome Result)

def operation? (r : Request) : Option Operation :=
  if r.method == "OPTIONS" then none
  else
    match Route.ofPath? r.path with
    | none => none
    | some route =>
      if !route.admits r.method then none
      else
        match route with
        | .health => none
        | .accounts => (decodeAccount r).toOption.map .createAccount
        | .balance id => (pathId id).toOption.map .getBalance
        | .entries id => (pathId id).toOption.map .listEntries
        | .transactions => (decodeTransfer r).toOption.map .createTransfer

-- The response to an outcome. Writes that succeed are answered without a body.
def responseTo (o : Operation) (outcome : Outcome) : Response :=
  match outcome.error?, o, outcome with
  | some e, _, _ => Response.ofLedgerError e
  | none, .getBalance _, .account (.ok account) => Response.json 200 (BalanceBody.ofAccount account).toJson
  | none, .listEntries id, .entries (.ok entries) => entriesResponse id entries
  | none, _, _ => Response.created

theorem ledger_error_range (e : LedgerError) :
    400 ≤ (Response.ofLedgerError e).status ∧ (Response.ofLedgerError e).status < 600 := by
  cases e <;> exact ⟨Nat.le_of_ble_eq_true rfl, Nat.le_of_ble_eq_true rfl⟩

theorem failed_response (o : Operation) (outcome : Outcome) (e : LedgerError) (failed : outcome.error? = some e) :
    responseTo o outcome = Response.ofLedgerError e := by
  simp only [responseTo, failed]

theorem created_response (o : Operation) (outcome : Outcome) (success : outcome.error? = none)
    (write : o.isRead = false) : responseTo o outcome = Response.created := by
  cases o with
  | createAccount input => simp only [responseTo, success]
  | createTransfer input => simp only [responseTo, success]
  | getBalance id | listEntries id => cases write

theorem success_response (o : Operation) (outcome : Outcome) (success : outcome.error? = none) :
    (responseTo o outcome).status < 300 := by
  unfold responseTo
  rw [success]
  cases o with
  | createAccount input | createTransfer input => exact Nat.le_of_ble_eq_true rfl
  | getBalance id | listEntries id => split <;> simp_all [Response.json, entriesResponse, Response.created]

theorem logged_closes (line : Option LogLine) (r : Response) : (Response.logged line r).Closes r := by
  cases line with
  | none => exact .done r
  | some line => exact .log line _ r (.done r)

def responded {α : Type} (succeeded : α → Response) : Result α → Response
  | .ok a => succeeded a
  | .error e => Response.ofLedgerError e

theorem respond_closes {α : Type} (handler : α → Program Response) (succeeded : α → Response)
    (closes : ∀ a, (handler a).Closes (succeeded a)) (r : Result α) :
    (respond handler r).Closes (responded succeeded r) := by
  cases r with
  | ok a => exact closes a
  | error e => exact logged_closes _ _

theorem trouble_status (e : LedgerError) (trouble : e.isTrouble = true) :
    500 ≤ (Response.ofLedgerError e).status := by
  cases e with
  | timeout operation => exact Nat.le_of_ble_eq_true rfl
  | internal context cause => exact Nat.le_refl 500
  | negativeBalance | negativeAmount | sameAccount => cases trouble
  | notFound id | partyNotFound source destination | alreadyExists id | insufficientFunds id => cases trouble

-- How a task answers a request: at once, or through the ledger's operation that the request asks for.
inductive Serves (limit : Option Nat) : Option Operation → Task Response → Prop
  | atOnce (p : Program Response) (response : Response) (closes : p.Closes response)
      (nothing : response.status ≠ 201) : Serves limit none (.unlimited p)
  | through {α : Type} (o : Operation) (t : Task (Result α)) (wrap : Result α → Outcome)
      (handler : α → Program Response) (succeeded : α → Response) (whole : o.task limit = t.map wrap)
      (orderly : t.Orderly fun r => o.isRead = false ∧ Ledger.Troubled r)
      (closes : ∀ a, (handler a).Closes (succeeded a)) (agrees : ∀ r, responded succeeded r = responseTo o (wrap r)) :
      Serves limit (some o) (t.bind (respond handler))

theorem refuse_serves (limit : Option Nat) (e : AppError) : Serves limit none (.unlimited (Response.refuse e)) := by
  refine .atOnce _ _ (logged_closes _ _) ?_
  cases e <;> simp [Response.ofAppError, Response.json, AppError.status]

theorem dispatch_serves (limit : Option Nat) (r : Request) (notOptions : (r.method == "OPTIONS") = false) :
    Serves limit (operation? r) (dispatch limit r) ∧
      ∀ o, operation? r = some o → o.isRead = false → r.method = "POST" := by
  unfold operation? dispatch
  simp only [notOptions, Bool.false_eq_true, if_false]
  cases Route.ofPath? r.path with
  | none => exact ⟨refuse_serves limit _, fun _ impossible => by cases impossible⟩
  | some route =>
      by_cases admitted : route.admits r.method = true
      · simp only [admitted, Bool.not_true, Bool.false_eq_true, if_false]
        cases route with
        | health => exact ⟨.atOnce _ _ (.done _) (by decide), fun _ impossible => by cases impossible⟩
        | accounts =>
            refine ⟨?_, fun _ _ _ => by simpa [Route.admits, Route.isWrite] using admitted⟩
            simp only [postAccount]
            cases decodeAccount r with
            | error e => exact refuse_serves limit e
            | ok input =>
                refine .through (.createAccount input) _ .account _ (fun _ => Response.created) rfl ?_
                  (fun account => .log _ _ _ (.done _)) (fun r => by cases r <;> rfl)
                exact task_orderly_mono _ _ (fun _ troubled => ⟨rfl, troubled⟩) _
                  (Ledger.create_account_orderly limit input)
        | transactions =>
            refine ⟨?_, fun _ _ _ => by simpa [Route.admits, Route.isWrite] using admitted⟩
            simp only [postTransfer]
            cases decodeTransfer r with
            | error e => exact refuse_serves limit e
            | ok input =>
                refine .through (.createTransfer input) _ .transfer _ (fun _ => Response.created) rfl ?_
                  (fun _ => .log _ _ _ (.done _)) (fun r => by cases r <;> rfl)
                exact task_orderly_mono _ _ (fun _ troubled => ⟨rfl, troubled⟩) _
                  (Ledger.create_transfer_orderly limit input)
        | balance raw =>
            simp only [getBalance]
            cases pathId raw with
            | error e => exact ⟨refuse_serves limit e, fun _ impossible => by cases impossible⟩
            | ok id =>
                refine ⟨.through (.getBalance id) _ .account _ _ rfl ?_ (fun account => .done _)
                  (fun r => by cases r <;> rfl), fun o same write => by cases same; cases write⟩
                exact task_orderly_mono _ _ (fun _ => False.elim) _ (Ledger.get_balance_orderly id)
        | entries raw =>
            simp only [getEntries]
            cases pathId raw with
            | error e => exact ⟨refuse_serves limit e, fun _ impossible => by cases impossible⟩
            | ok id =>
                refine ⟨.through (.listEntries id) _ .entries _ _ rfl ?_ (fun entries => .done _)
                  (fun r => by cases r <;> rfl), fun o same write => by cases same; cases write⟩
                exact task_orderly_mono _ _ (fun _ => False.elim) _ (Ledger.list_entries_orderly id)
      · simp only [eq_false_of_ne_true admitted, Bool.not_false, if_true]
        exact ⟨.atOnce _ _ (.done _) (by simp [notAllowed]), fun _ impossible => by cases impossible⟩

theorem asks_not_options (r : Request) (o : Operation) (asks : operation? r = some o) :
    (r.method == "OPTIONS") = false := by
  by_cases options : (r.method == "OPTIONS") = true
  · simp only [operation?, options, if_true] at asks
    cases asks
  · exact eq_false_of_ne_true options

theorem serves_orderly (limit : Option Nat) (asked : Option Operation) (t : Task Response)
    (serves : Serves limit asked t) :
    t.Orderly fun response => (∃ o, asked = some o ∧ o.isRead = false) ∧ 500 ≤ response.status := by
  cases serves with
  | atOnce p response closes _ => exact Ledger.unlimited_orderly _ _ (.closes p response closes)
  | through o t wrap handler succeeded _ orderly closes _ =>
      refine task_orderly_bind _ _ _ (fun r => ⟨_, respond_closes handler succeeded closes r⟩) ?_ t orderly
      rintro r ⟨write, e, rfl, trouble⟩
      exact ⟨_, ⟨⟨o, rfl, write⟩, trouble_status e trouble⟩, respond_closes handler succeeded closes (.error e)⟩

theorem decorate_closes (r : Request) (p : Program Response) (response : Response) (closes : p.Closes response) :
    (p.bind fun response => .done (decorate r response)).Closes (decorate r response) :=
  Program.closes_bind p _ response _ closes (.done _)

theorem handle_orderly (limit : Option Nat) (r : Request) :
    (handle limit r).Orderly fun response =>
      (∃ o, operation? r = some o ∧ o.isRead = false) ∧ 500 ≤ response.status := by
  rw [handle]
  by_cases options : (r.method == "OPTIONS") = true
  · rw [if_pos options]
    exact Ledger.unlimited_orderly _ _ (.closes _ _ (.done _))
  · rw [if_neg options]
    have dispatched := serves_orderly limit _ _ (dispatch_serves limit r (eq_false_of_ne_true options)).1
    have decorated := task_orderly_bind _
      (fun response => (∃ o, operation? r = some o ∧ o.isRead = false) ∧ 500 ≤ response.status)
      (fun response => .done (decorate r response)) (fun _ => ⟨_, .done _⟩)
      (fun response isBad => ⟨decorate r response, isBad, .done _⟩) _ dispatched
    exact ⟨.log _ _ decorated.1, decorated.2⟩

theorem dispatch_body (limit other : Option Nat) (r : Request) :
    (dispatch limit r).body = (dispatch other r).body := by
  unfold dispatch
  cases Route.ofPath? r.path with
  | none => rfl
  | some route =>
      by_cases admitted : route.admits r.method = true
      · simp only [admitted, Bool.not_true, Bool.false_eq_true, if_false]
        cases route with
        | health => rfl
        | balance id => rfl
        | entries id => rfl
        | accounts =>
            unfold postAccount
            cases decodeAccount r with
            | error e => rfl
            | ok input => exact congrArg (Program.bind · _) (Ledger.create_account_body limit other input)
        | transactions =>
            unfold postTransfer
            cases decodeTransfer r with
            | error e => rfl
            | ok input => exact congrArg (Program.bind · _) (Ledger.create_transfer_body limit other input)
      · simp only [eq_false_of_ne_true admitted, Bool.not_false, if_true]

theorem handle_body (limit other : Option Nat) (r : Request) : (handle limit r).body = (handle other r).body := by
  unfold handle
  by_cases options : (r.method == "OPTIONS") = true
  · rw [if_pos options, if_pos options]
  · rw [if_neg options, if_neg options]
    exact congrArg (fun p => Program.log (requestSpan r) (Program.bind p _)) (dispatch_body limit other r)

theorem handle_closes (limit : Option Nat) (r : Request) (o : Operation) (asks : operation? r = some o)
    (response : Response) (closes : (handle limit r).body.Closes response) :
    ∃ outcome, (o.task limit).body.Closes outcome := by
  have notOptions := asks_not_options r o asks
  have serves := (dispatch_serves limit r notOptions).1
  rw [handle] at closes
  simp only [notOptions, Bool.false_eq_true, if_false] at closes
  generalize asked : operation? r = found at serves
  generalize dispatched : dispatch limit r = t at serves closes
  cases closes with
  | log _ _ _ closes =>
      obtain ⟨answer, closesDispatch⟩ := Program.bind_closes _ _ response closes
      cases serves with
      | atOnce p _ _ _ =>
          rw [asked] at asks
          cases asks
      | through same t wrap handler _ whole _ _ _ =>
          rw [asked] at asks
          cases asks
          obtain ⟨r, closesBody⟩ := Program.bind_closes _ _ answer closesDispatch
          rw [whole]
          exact ⟨wrap r, Program.closes_bind t.body _ r _ closesBody (.done _)⟩

theorem handle_at_once (limit : Option Nat) (r : Request) (asks : operation? r = none) :
    ∃ response, (handle limit r).body.Closes response ∧ response.status ≠ 201 := by
  rw [handle]
  by_cases options : (r.method == "OPTIONS") = true
  · rw [if_pos options]
    exact ⟨_, .done _, by simp [preflight]⟩
  · rw [if_neg options]
    have serves := (dispatch_serves limit r (eq_false_of_ne_true options)).1
    rw [asks] at serves
    generalize dispatch limit r = t at serves
    cases serves with
    | atOnce p response closes nothing => exact ⟨_, .log _ _ _ (decorate_closes r p response closes), nothing⟩

section Solo

variable (now : Stamp) (committed : Book)

theorem serves_solo (limit : Option Nat) (o : Operation) (t : Task Response) (serves : Serves limit (some o) t) :
    t.body.solo now none committed =
      ((o.task limit).body.solo now none committed).map fun (outcome, later) => (responseTo o outcome, later) := by
  cases serves with
  | through o t wrap handler succeeded whole _ closes agrees =>
      have answered := Program.solo_bind now t.body (respond handler) (responded succeeded) none committed
        (respond_closes handler succeeded closes)
      have wrapped := Program.solo_bind now t.body (fun r => .done (wrap r)) wrap none committed
        fun r => .done (wrap r)
      rw [whole]
      change (t.body.bind (respond handler)).solo now none committed =
        ((t.body.bind fun r => .done (wrap r)).solo now none committed).map _
      rw [answered, wrapped]
      cases t.body.solo now none committed with
      | error e => rfl
      | ok result => exact congrArg (fun response => Except.ok (response, result.2)) (agrees result.1)

theorem handle_solo (limit : Option Nat) (r : Request) (o : Operation) (asks : operation? r = some o) :
    (handle limit r).body.solo now none committed =
      ((o.task limit).body.solo now none committed).map fun (outcome, later) =>
        (decorate r (responseTo o outcome), later) := by
  have notOptions := asks_not_options r o asks
  have serves := (dispatch_serves limit r notOptions).1
  rw [asks] at serves
  have decorated := Program.solo_bind now (dispatch limit r).body (fun response => .done (decorate r response))
    (decorate r) none committed fun response => .done _
  rw [handle]
  simp only [notOptions, Bool.false_eq_true, if_false]
  change ((dispatch limit r).body.bind _).solo now none committed = _
  rw [decorated, serves_solo now committed limit o _ serves]
  cases (o.task limit).body.solo now none committed <;> rfl

end Solo

end Http
end DoubleEntry
