import DoubleEntry.Proofs.Http.Bodies
import DoubleEntry.Proofs.Http.Checks
import DoubleEntry.Proofs.Http.Paths

/-!
Requests of clients for accounts and for transfers. What a body asks for reaches the ledger as it was written, and the
ledger's own outcome is what the answer tells: of too little in an account only if the transfer has found that.
-/

set_option autoImplicit false

namespace DoubleEntry.Http

open Ledger (Operation Outcome Result)

structure Request.Gets (r : Request) (route : String → Route) (id : AccountId) : Prop where
  get : r.method = "GET"
  path : ∃ raw, Route.ofPath? r.path = some (route raw) ∧ pathId raw = .ok id

structure Request.Transfers (r : Request) (b : TransferRequest) : Prop where
  posted : r.method = "POST"
  route : Route.ofPath? r.path = some .transactions
  body : ∃ d, readBody r TransferRequest.read = .ok d ∧ TransferRequest.ofDatum? d = some b

structure Request.Pays (r : Request) (source destination : AccountId) (amount : String) : Prop where
  posted : r.method = "POST"
  target : r.target = "/transactions"
  announced : (r.header? "content-type").any announcesJson = true
  short : r.body.length ≤ bodyLimit
  fits : Text.isInt64 source = true ∧ Text.isInt64 destination = true
  body : r.body = Text.encode (transferJson source destination amount)

section Requests

variable (r : Request)

theorem gets_balance (id : AccountId) (gets : r.Gets .balance id) : operation? r = some (.getBalance id) := by
  obtain ⟨raw, route, own⟩ := gets.path
  rw [operation?, gets.get, route]
  simp [Route.admits, Route.isWrite, own, Except.toOption]

theorem gets_entries (id : AccountId) (gets : r.Gets .entries id) : operation? r = some (.listEntries id) := by
  obtain ⟨raw, route, own⟩ := gets.path
  rw [operation?, gets.get, route]
  simp [Route.admits, Route.isWrite, own, Except.toOption]

theorem pays_transfers (source destination : AccountId) (amount : String) (pays : r.Pays source destination amount) :
    r.Transfers ⟨some source, some destination, some amount⟩ := by
  have read : readBody r TransferRequest.read = .ok (.record [.int source, .int destination, .text amount]) := by
    rw [readBody, pays.announced, pays.body, transfer_body_decoded source destination amount pays.fits, ← pays.body]
    simp [Nat.not_lt_of_le pays.short, Except.mapError]
  exact ⟨pays.posted, transactions_path r pays.target, _, read, rfl⟩

structure PlainlyAsked : Prop where
  balances : r.method = "GET" → ∀ id, 1 ≤ id → Text.isInt64 id = true →
    r.target = "/accounts/" ++ toString id → r.Gets .balance id
  entries : r.method = "GET" → ∀ id, 1 ≤ id → Text.isInt64 id = true →
    r.target = "/accounts/" ++ toString id ++ "/entries" → r.Gets .entries id
  transfers : ∀ source destination amount, r.Pays source destination amount →
    r.Transfers ⟨some source, some destination, some amount⟩

theorem plainly_asked : PlainlyAsked r := by
  refine ⟨?_, ?_, pays_transfers r⟩
  · exact fun get id positive fits target => ⟨get, _, balance_path r id positive target, path_id_read id positive fits⟩
  · exact fun get id positive fits target => ⟨get, _, entries_path r id positive target, path_id_read id positive fits⟩

variable (b : TransferRequest) (asks : r.Transfers b)

include asks

theorem transfers_decoded : decodeTransfer r = b.check := by
  obtain ⟨d, read, found⟩ := asks.body
  simp only [decodeTransfer, decodeBody, read, Except.mapError, bind, Except.bind, found]

theorem transfers_operation (t : Transfer) (checked : b.check = .ok t) : operation? r = some (.createTransfer t) := by
  rw [operation?, asks.posted, asks.route, transfers_decoded r b asks, checked]
  rfl

theorem transfers_problem (e : AppError) (failed : b.check = .error e) : problem? r = some (.ofAppError e) := by
  rw [problem?, asks.posted, asks.route, transfers_decoded r b asks, failed]
  rfl

end Requests

section Fields

theorem check_fields (b : TransferRequest) (t : Transfer) (checked : b.check = .ok t) :
    b.source = some t.source ∧ b.destination = some t.destination ∧
      ∃ text, b.amount = some text ∧ Amount.parse text = .ok t.amount := by
  obtain ⟨source, sourceGiven, checked⟩ := bound_ok _ _ t checked
  obtain ⟨destination, destinationGiven, checked⟩ := bound_ok _ _ t checked
  obtain ⟨amount, amountGiven, checked⟩ := bound_ok _ _ t checked
  cases checked
  refine ⟨id_required _ _ source sourceGiven, id_required _ _ destination destinationGiven, ?_⟩
  cases written : b.amount with
  | none =>
      rw [written] at amountGiven
      cases amountGiven
  | some text =>
      rw [written, requireAmount] at amountGiven
      cases read : Amount.parse text with
      | error e =>
          rw [read] at amountGiven
          cases amountGiven
      | ok d =>
          rw [read] at amountGiven
          cases amountGiven
          exact ⟨text, rfl, read⟩

theorem check_paid (b : TransferRequest) (t : Transfer) (checked : b.check = .ok t) (source : AccountId) (text : String)
    (amount : Decimal) (own : b.source = some source) (written : b.amount = some text)
    (read : Amount.parse text = .ok amount) : t.source = source ∧ t.amount = amount := by
  obtain ⟨given, _, shown, same, meant⟩ := check_fields b t checked
  rw [own] at given
  rw [written] at same
  cases same
  rw [read] at meant
  exact ⟨(Option.some.inj given).symm, (Except.ok.inj meant).symm⟩

theorem fields_check (t : Transfer) (text : String) (positive : 1 ≤ t.source ∧ 1 ≤ t.destination)
    (read : Amount.parse text = .ok t.amount) :
    TransferRequest.check ⟨some t.source, some t.destination, some text⟩ = .ok t := by
  simp [TransferRequest.check, requireId, requireAmount, positive, read, Except.mapError, bind, Except.bind, pure,
    Except.pure]

end Fields

namespace Response

def IsShort (x : Response) : Prop := ∃ message, x.body = errorBody "INSUFFICIENT_FUNDS" message

theorem short_code (x : Response) (short : x.IsShort) : codeOf? x.body = some "INSUFFICIENT_FUNDS".toList := by
  obtain ⟨message, body⟩ := short
  rw [body]
  exact code_of_error _ message (by decide)

theorem rejection_not_short (x : Response) (rejection : x.IsRejection) : ¬ x.IsShort := by
  intro short
  obtain ⟨own, among, code⟩ := rejection_code x rejection
  rw [short_code x short] at code
  exact codes_apart own among "INSUFFICIENT_FUNDS" (by decide) (Option.some.inj code).symm

theorem empty_not_short (x : Response) (empty : x.body = "") : ¬ x.IsShort := by
  intro short
  have code := short_code x short
  rw [empty] at code
  exact absurd code (by decide)

theorem ledger_error_code (e : LedgerError) : codeOf? (ofLedgerError e).body = some e.code.toList := by
  cases e with
  | negativeBalance | negativeAmount | sameAccount => exact code_of_error _ _ (by decide)
  | notFound id | partyNotFound source destination | alreadyExists id | insufficientFunds id | timeout operation
  | internal context cause => exact code_of_error _ _ (by simp [LedgerError.code, AppError.code, troubleCodes])

theorem ledger_error_short (e : LedgerError) (short : (ofLedgerError e).IsShort) : ∃ id, e = .insufficientFunds id := by
  have code := short_code _ short
  rw [ledger_error_code] at code
  cases e with
  | insufficientFunds id => exact ⟨id, rfl⟩
  | negativeBalance | negativeAmount | sameAccount | notFound id | partyNotFound source destination | alreadyExists id
  | timeout operation | internal context cause => simp [LedgerError.code] at code

end Response

theorem decorate_short (r : Request) (x : Response) (short : (decorate r x).IsShort) : x.IsShort := by
  rcases shown_body r x with same | empty
  · rwa [Response.IsShort, same] at short
  · exact absurd short (Response.empty_not_short _ empty)

theorem told_short (r : Request) (o : Operation) (write : o.isRead = false) (outcome : Outcome)
    (short : (decorate r (responseTo o outcome)).IsShort) : ∃ id, outcome.error? = some (.insufficientFunds id) := by
  have own := decorate_short r _ short
  cases failed : outcome.error? with
  | none =>
      rw [created_response o outcome failed write] at own
      exact absurd own (Response.empty_not_short _ rfl)
  | some e =>
      rw [failed_response o outcome e failed] at own
      obtain ⟨id, rfl⟩ := Response.ledger_error_short e own
      exact ⟨id, rfl⟩

theorem handle_tells (limit : Option Nat) (r : Request) (o : Operation) (asks : operation? r = some o) :
    (handle limit r).Always True fun x => ∃ outcome, x = decorate r (responseTo o outcome) := by
  have notOptions := asks_not_options r o asks
  have serves := (dispatch_serves limit r notOptions).1
  rw [asks] at serves
  rw [handle, if_neg (by simp [notOptions])]
  generalize dispatch limit r = t at serves
  cases serves with
  | @through α o t wrap handler succeeded _ _ closes agrees =>
      have any := task_always_any True (fun _ : Result α => True) trivial (fun _ => trivial) t
      have responds := task_always_bind True (fun _ => True) (fun x => ∃ outcome, x = responseTo o outcome) (respond handler)
        (fun a _ => Program.always_closes _ _ _ _ (respond_closes handler succeeded closes a) ⟨wrap a, agrees a⟩) t any
      have decorated := task_always_map True _ (fun x => ∃ outcome, x = decorate r (responseTo o outcome)) (decorate r)
        (by rintro _ ⟨outcome, rfl⟩; exact ⟨outcome, rfl⟩) _ responds
      exact ⟨decorated.body, decorated.instead⟩

end DoubleEntry.Http
