import DoubleEntry.Proofs.Http.Conduct
import DoubleEntry.Proofs.Json.Texts
import DoubleEntry.Proofs.Program.Always

/-!
How errors are told. The body of an error is an object with its code and its message, and nothing else; of an internal error
neither says anything but that there was one. So whatever a request is answered with the status of an internal error, the
body is one and the same.
-/

set_option autoImplicit false

namespace DoubleEntry

open Ledger (Operation Result)

def LedgerError.isInternal : LedgerError → Bool
  | internal _ _ => true
  | _ => false

namespace Http

def hiddenBody : String := Response.errorBody "INTERNAL_ERROR" "An internal error occurred"

structure Told (e : LedgerError) (x : Response) : Prop where
  json : x.headers = [Response.jsonHeader]
  shown : e.isInternal = false →
    x.status = e.status ∧ Json.texts? x.body = some [("error", e.code), ("message", e.message)]
  hidden : e.isInternal = true → x.status = 500 ∧
    Json.texts? x.body = some [("error", "INTERNAL_ERROR"), ("message", "An internal error occurred")]

theorem error_body_read (code message : String) :
    Json.texts? (Response.errorBody code message) = some [("error", code), ("message", message)] :=
  Json.texts_written [("error", code), ("message", message)]

theorem ledger_error_told (e : LedgerError) : Told e (Response.ofLedgerError e) := by
  cases e with
  | internal context cause => exact ⟨rfl, nofun, fun _ => ⟨rfl, error_body_read _ _⟩⟩
  | negativeBalance | negativeAmount | sameAccount | notFound id | partyNotFound source destination | alreadyExists id
  | insufficientFunds id | timeout operation => exact ⟨rfl, fun _ => ⟨rfl, error_body_read _ _⟩, nofun⟩

theorem internal_hidden (e : LedgerError) (isInternal : e.isInternal = true) :
    (Response.ofLedgerError e).status = 500 ∧ (Response.ofLedgerError e).body = hiddenBody := by
  cases e with
  | internal context cause => exact ⟨rfl, rfl⟩
  | negativeBalance | negativeAmount | sameAccount | notFound id | partyNotFound source destination | alreadyExists id
  | insufficientFunds id | timeout operation => cases isInternal

inductive Reply (r : Request) : Response → Prop
  | refused (e : AppError) : Reply r (.ofAppError e)
  | failed (e : LedgerError) : Reply r (.ofLedgerError e)
  | notAllowed (route : Route) (known : Route.ofPath? r.path = some route) (barred : route.admits r.method = false) :
      Reply r (notAllowed route)
  | success (x : Response) (status : x.status < 300) : Reply r x

section Replies

variable {α : Type} (limit : Option Nat) (r : Request)

theorem respond_replies (handler : α → Program Response) (succeeds : ∀ a, (handler a).Always True (Reply r))
    (t : Task (Result α)) : (t.bind (respond handler)).Always True (Reply r) := by
  refine task_always_bind True (fun _ => True) (Reply r) _ ?_ t (task_always_any True _ trivial (fun _ => trivial) t)
  intro result _
  cases result with
  | ok a => exact succeeds a
  | error e => exact Program.always_closes True (Reply r) _ _ (logged_closes _ _) (.failed e)

theorem refused_replies (e : AppError) : (Task.unlimited (Response.refuse e)).Always True (Reply r) :=
  unlimited_always True (Reply r) _ (Program.always_closes True (Reply r) _ _ (logged_closes _ _) (.refused e))

theorem checked_replies (c : Checked α) (next : α → Task Response) (replies : ∀ a, (next a).Always True (Reply r)) :
    (checked c next).Always True (Reply r) := by
  cases c with
  | error e => exact refused_replies r e
  | ok a => exact replies a

theorem dispatch_replies : (dispatch limit r).Always True (Reply r) := by
  unfold dispatch
  cases known : Route.ofPath? r.path with
  | none => exact refused_replies r _
  | some route =>
      by_cases admitted : route.admits r.method = true
      · simp only [admitted, Bool.not_true, Bool.false_eq_true, if_false]
        cases route with
        | health => exact unlimited_always _ _ _ (Reply.success health (by decide))
        | accounts =>
            refine checked_replies r _ _ fun input => respond_replies r _ ?_ _
            exact fun account => Reply.success Response.created (by decide)
        | transactions =>
            refine checked_replies r _ _ fun input => respond_replies r _ ?_ _
            exact fun moved => Reply.success Response.created (by decide)
        | balance raw =>
            refine checked_replies r _ _ fun id => respond_replies r _ ?_ _
            exact fun account => Reply.success _ (by decide : 200 < 300)
        | entries raw =>
            refine checked_replies r _ _ fun id => respond_replies r _ ?_ _
            exact fun entries => Reply.success _ (by decide : 200 < 300)
      · simp only [eq_false_of_ne_true admitted, Bool.not_false, if_true]
        exact unlimited_always _ _ _ (.notAllowed route known (eq_false_of_ne_true admitted))

/-- Every answer is one of these with its headers, or tells a browser what is allowed. -/
theorem handle_replies : (handle limit r).Always True fun x => x = preflight r ∨ ∃ y, Reply r y ∧ x = decorate r y := by
  rw [handle]
  by_cases options : (r.method == "OPTIONS") = true
  · rw [if_pos options]
    exact unlimited_always _ _ _ (.inl rfl)
  · rw [if_neg options]
    have told := task_always_map True (Reply r) (fun x => x = preflight r ∨ ∃ y, Reply r y ∧ x = decorate r y) (decorate r)
      (fun y reply => .inr ⟨y, reply, rfl⟩) _ (dispatch_replies limit r)
    exact ⟨told.body, told.instead⟩

theorem reply_hidden (x : Response) (reply : Reply r x) (status : x.status = 500) : x.body = hiddenBody := by
  cases reply with
  | refused e =>
      cases e with
      | internal detail => rfl
      | notFound detail | validation detail => cases status
  | failed e =>
      cases isInternal : e.isInternal with
      | true => exact (internal_hidden e isInternal).2
      | false =>
          cases e with
          | internal => cases isInternal
          | negativeBalance | negativeAmount | sameAccount | notFound | partyNotFound | alreadyExists | insufficientFunds
          | timeout => cases status
  | notAllowed => cases status
  | success x below =>
      rw [status] at below
      exact absurd below (by decide)

def shownHidden (r : Request) : String := if r.method == "HEAD" then "" else hiddenBody

theorem handle_hidden : (handle limit r).Always True fun x => x.status = 500 → x.body = shownHidden r := by
  refine task_always_mono True _ _ ?_ _ (handle_replies limit r)
  rintro x (rfl | ⟨y, reply, rfl⟩) status
  · cases status
  · have body := reply_hidden r y reply status
    simp only [decorate, shownHidden, body]

end Replies

end Http

end DoubleEntry
