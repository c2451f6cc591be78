import DoubleEntry.Proofs.Http.Conduct
import DoubleEntry.Proofs.Ledger.Rejection

/-!
What is wrong with a request by itself. Path, method, body and fields are looked at first, and then the ledger's own
checks; a request that fails one of them is answered with that, and with nothing else. The codes of these answers are
not those of anything that a store can lead to.
-/

set_option autoImplicit false

namespace DoubleEntry.Http

open Ledger (Operation Result Fair)

-- The codes of what is wrong with a request by itself.
def rejectionCodes : List String :=
  ["VALIDATION_ERROR", "NOT_FOUND", "NEGATIVE_BALANCE", "NEGATIVE_AMOUNT", "SAME_ACCOUNT"]

-- Those of what can go wrong inside of the service and in its store.
def troubleCodes : List String :=
  ["INTERNAL_ERROR", "ACCOUNT_NOT_FOUND", "ACCOUNT_ALREADY_EXISTS", "INSUFFICIENT_FUNDS", "TIMEOUT"]

namespace Response

def IsRejection (x : Response) : Prop := ∃ code ∈ rejectionCodes, ∃ message, x.body = errorBody code message

section Codes

-- The code that a body begins with, if it is that of an error.
def codeOf? (body : String) : Option (List Char) :=
  let start := "\x7b\"error\":\"".toList
  if start.isPrefixOf body.toList then some ((body.toList.drop start.length).takeWhile (· != '"')) else none

theorem codes_plain : ∀ code ∈ rejectionCodes ++ troubleCodes,
    code.toList.flatMap Json.escape = code.toList ∧ code.toList.all (· != '"') = true := by
  decide

theorem codes_apart : ∀ own ∈ rejectionCodes, ∀ code ∈ troubleCodes, own.toList ≠ code.toList := by
  decide

theorem code_of_error (code message : String) (among : code ∈ rejectionCodes ++ troubleCodes) :
    codeOf? (errorBody code message) = some code.toList := by
  obtain ⟨plain, unquoted⟩ := codes_plain code among
  have chars : (errorBody code message).toList = "\x7b\"error\":\"".toList ++
      (code.toList ++ ('"' :: (",\"message\":" ++ Json.textJson message ++ "\x7d").toList)) := by
    simp [errorBody, Json.objectJson, Json.memberJson, Json.textJson, Json.escape, plain]
  have taken : (code.toList ++ ('"' :: (",\"message\":" ++ Json.textJson message ++ "\x7d").toList)).takeWhile
      (· != '"') = code.toList := by
    rw [List.takeWhile_append_of_pos (List.all_eq_true.mp unquoted), List.takeWhile_cons_of_neg (by decide), List.append_nil]
  rw [codeOf?, chars]
  simp only [List.drop_left, taken, List.isPrefixOf_iff_prefix, List.prefix_append, if_true]

theorem rejection_code (x : Response) (rejection : x.IsRejection) :
    ∃ code ∈ rejectionCodes, codeOf? x.body = some code.toList := by
  obtain ⟨code, among, message, body⟩ := rejection
  exact ⟨code, among, by rw [body]; exact code_of_error code message (List.mem_append_left _ among)⟩

theorem trouble_no_rejection (status : Nat) (code message : String) (trouble : code ∈ troubleCodes) :
    ¬ (json status (errorBody code message)).IsRejection := by
  intro rejection
  obtain ⟨own, among, same⟩ := rejection_code _ rejection
  rw [json, code_of_error code message (List.mem_append_right _ trouble)] at same
  exact codes_apart own among code trouble (Option.some.inj same).symm

theorem no_code (x : Response) (none : codeOf? x.body = none) : ¬ x.IsRejection := by
  intro rejection
  obtain ⟨_, _, some⟩ := rejection_code x rejection
  rw [none] at some
  cases some

theorem empty_no_rejection (x : Response) (empty : x.body = "") : ¬ x.IsRejection :=
  no_code x (by rw [empty]; decide)

theorem internal_no_rejection (detail : String) : ¬ (ofAppError (.internal detail)).IsRejection :=
  trouble_no_rejection _ _ _ List.mem_cons_self

theorem fair_no_rejection (e : LedgerError) (fair : e.isRejection = false) : ¬ (ofLedgerError e).IsRejection := by
  cases e with
  | negativeBalance | negativeAmount | sameAccount => cases fair
  | internal context cause => exact internal_no_rejection _
  | notFound id | partyNotFound source destination | alreadyExists id | insufficientFunds id | timeout operation =>
      exact trouble_no_rejection _ _ _ (by simp [LedgerError.code, troubleCodes])

theorem told_rejection (e : LedgerError) (own : e.isRejection = true) : (ofLedgerError e).IsRejection := by
  cases e with
  | negativeBalance | negativeAmount | sameAccount => exact ⟨_, by decide, _, rfl⟩
  | notFound id | partyNotFound source destination | alreadyExists id | insufficientFunds id | timeout operation
  | internal context cause => cases own

theorem account_no_rejection (x : Response) (value : String) (members : List (String × String))
    (body : x.body = Json.objectJson (("account_id", value) :: members)) : ¬ x.IsRejection := by
  apply no_code
  have chars : ∃ rest, x.body.toList = "\x7b\"account_id\":".toList ++ rest := by
    cases members with
    | nil => simp [body, Json.objectJson, Json.memberJson, Json.textJson, Json.escape]
    | cons member more => simp [body, Json.objectJson, Json.memberJson, Json.textJson, Json.escape, List.intercalate]
  obtain ⟨rest, chars⟩ := chars
  rw [codeOf?, chars]
  rfl

end Codes

end Response

section Problems

variable {α : Type}

def inputProblem? (c : Checked α) (o : α → Operation) : Option Response :=
  match c with
  | .error e => some (.ofAppError e)
  | .ok a => (o a).rejection?.map .ofLedgerError

/-- What is wrong with a request by itself. -/
def problem? (r : Request) : Option Response :=
  if r.method == "OPTIONS" then none
  else
    match Route.ofPath? r.path with
    | none => some (.ofAppError (.notFound ("No route for " ++ r.uri)))
    | some route =>
      if !route.admits r.method then none
      else
        match route with
        | .health => none
        | .accounts => inputProblem? (decodeAccount r) .createAccount
        | .balance id => inputProblem? (pathId id) .getBalance
        | .entries id => inputProblem? (pathId id) .listEntries
        | .transactions => inputProblem? (decodeTransfer r) .createTransfer

-- A request with a problem is answered with that at once, and one without any is never answered with a rejection.
inductive Judged : Option Response → Task Response → Prop
  | problem (p : Program Response) (x : Response) (closes : p.Closes x) : Judged (some x) (.unlimited p)
  | fine (t : Task Response) (always : t.Always True fun x => ¬ x.IsRejection) : Judged none t

theorem served_judged (o : Operation) (t : Task (Result α)) (handler : α → Program Response)
    (refused : ∀ e, o.rejection? = some e → t = .unlimited (.done (.error e)))
    (fair : o.rejection? = none → t.Always True Fair)
    (handled : ∀ a, (handler a).Always True fun x => ¬ x.IsRejection) :
    Judged (o.rejection?.map .ofLedgerError) (t.bind (respond handler)) := by
  cases rejected : o.rejection? with
  | some e =>
      rw [refused e rejected]
      exact .problem _ _ (logged_closes _ _)
  | none =>
      refine .fine _ (task_always_bind True Fair _ _ ?_ t (fair rejected))
      intro result own
      cases result with
      | ok a => exact handled a
      | error e =>
          exact Program.always_closes True _ _ _ (logged_closes _ _) (Response.fair_no_rejection e (own e rfl))

theorem checked_judged (c : Checked α) (o : α → Operation) (next : α → Task Response)
    (served : ∀ a, Judged ((o a).rejection?.map .ofLedgerError) (next a)) :
    Judged (inputProblem? c o) (checked c next) := by
  cases c with
  | error e => exact .problem _ _ (logged_closes _ _)
  | ok a => exact served a

theorem created_no_rejection : ¬ Response.created.IsRejection := Response.empty_no_rejection _ rfl

theorem dispatch_judged (limit : Option Nat) (r : Request) (notOptions : (r.method == "OPTIONS") = false) :
    Judged (problem? r) (dispatch limit r) := by
  unfold problem? dispatch
  simp only [notOptions, Bool.false_eq_true, if_false]
  cases Route.ofPath? r.path with
  | none => exact .problem _ _ (logged_closes _ _)
  | some route =>
      by_cases admitted : route.admits r.method = true
      · simp only [admitted, Bool.not_true, Bool.false_eq_true, if_false]
        cases route with
        | health => exact .fine _ (unlimited_always _ _ _ (Response.no_code health (by decide)))
        | accounts =>
            refine checked_judged _ _ _ fun input => served_judged _ _ _ ?_ ?_ fun account => created_no_rejection
            · exact Ledger.rejected_account limit input
            · exact Ledger.create_account_fair limit input
        | transactions =>
            refine checked_judged _ _ _ fun input => served_judged _ _ _ ?_ ?_ fun _ => created_no_rejection
            · exact Ledger.rejected_transfer limit input
            · exact Ledger.create_transfer_fair limit input
        | balance raw =>
            refine checked_judged _ _ _ fun id => served_judged (.getBalance id) _ _ ?_ ?_ fun account => ?_
            · intro e impossible
              cases impossible
            · exact fun _ => unlimited_always _ _ _
                (Program.always_mono _ _ _ _ (fun t => t) Ledger.found_fair _ (Ledger.read_account_found id))
            · exact Response.account_no_rejection _ _ _ rfl
        | entries raw =>
            refine checked_judged _ _ _ fun id => served_judged (.listEntries id) _ _ ?_ ?_ fun entries => ?_
            · intro e impossible
              cases impossible
            · exact fun _ => unlimited_always _ _ _
                (Program.always_mono _ _ _ _ (fun t => t) Ledger.found_fair _ (Ledger.read_entries_found id))
            · exact Response.account_no_rejection _ _ _ rfl
      · simp only [eq_false_of_ne_true admitted, Bool.not_false, if_true]
        exact .fine _ (unlimited_always _ _ _ (Response.empty_no_rejection (notAllowed route) rfl))

theorem shown_body (r : Request) (x : Response) : (decorate r x).body = x.body ∨ (decorate r x).body = "" := by
  by_cases head : (r.method == "HEAD") = true
  · exact .inr (if_pos head)
  · exact .inl (if_neg head)

theorem decorate_rejection (r : Request) (x : Response) (rejection : (decorate r x).IsRejection) : x.IsRejection := by
  rcases shown_body r x with same | empty
  · rwa [Response.IsRejection, same] at rejection
  · exact absurd rejection (Response.empty_no_rejection _ empty)

theorem handle_judged (limit : Option Nat) (r : Request) :
    Judged ((problem? r).map (decorate r)) (handle limit r) := by
  rw [handle]
  by_cases options : (r.method == "OPTIONS") = true
  · simp only [problem?, options, if_true]
    exact .fine _ (unlimited_always _ _ _ (Response.empty_no_rejection (preflight r) rfl))
  · rw [if_neg options]
    have judged := dispatch_judged limit r (eq_false_of_ne_true options)
    generalize dispatch limit r = t at judged
    generalize problem? r = found at judged
    cases judged with
    | problem p x closes => exact .problem _ _ (.log _ _ _ (decorate_closes r p x closes))
    | fine t always =>
        have decorated := task_always_map True _ (fun x : Response => ¬ x.IsRejection) (decorate r)
          (fun x fine rejection => fine (decorate_rejection r x rejection)) t always
        exact .fine _ ⟨decorated.body, decorated.instead⟩

theorem problem_handled (limit : Option Nat) (r : Request) (x : Response) (problem : problem? r = some x) :
    ∃ p, handle limit r = .unlimited p ∧ p.Closes (decorate r x) := by
  have judged := handle_judged limit r
  rw [problem] at judged
  generalize handle limit r = t at judged
  cases judged with
  | problem p _ closes => exact ⟨p, rfl, closes⟩

end Problems

end DoubleEntry.Http
