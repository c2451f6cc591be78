import DoubleEntry.Proofs.History.Answers
import DoubleEntry.Proofs.Http.Hidden
import DoubleEntry.Proofs.Http.Paths

/-!
The form of errors. All that the routes refuse, and all that the ledger fails of, is told in one form: an object with a code
and a message. A path that is asked with a method it does not admit is answered before any of the routes is reached, and this
answer says nothing.
-/

set_option autoImplicit false

namespace DoubleEntry

open Http (Request)

namespace Http

def isCode (code : String) : Bool := !code.isEmpty && code.toList.all fun c => c.isUpper || c == '_'

/-- An error as clients are promised it. -/
structure Response.Uniform (x : Response) : Prop where
  json : Response.jsonHeader ∈ x.headers
  told : ∃ code message, isCode code = true ∧ Json.texts? x.body = some [("error", code), ("message", message)]

-- The path is that of a route, but the method is not one of those of the route.
def Request.misrouted (r : Request) : Bool := (Route.ofPath? r.path).any fun route => !route.admits r.method

structure TellsFailure (r : Request) (x : Response) : Prop where
  uniform : 400 ≤ x.status → (x.Uniform ↔ r.misrouted = false)
  bare : r.misrouted = true → r.method ≠ "OPTIONS" → x.status = 405 ∧ x.body = ""

theorem app_code (e : AppError) : isCode e.code = true := by
  cases e <;> simp only [AppError.code] <;> decide

theorem ledger_code (e : LedgerError) : isCode e.code = true := by
  cases e <;> simp only [LedgerError.code] <;> decide

theorem silent_differs (x : Response) (silent : x.body = "") : ¬ x.Uniform := by
  rintro ⟨-, code, message, -, told⟩
  rw [silent] at told
  cases told

theorem app_error_uniform (e : AppError) : (Response.ofAppError e).Uniform :=
  ⟨List.mem_singleton_self _, e.code, e.publicMessage, app_code e, error_body_read _ _⟩

theorem ledger_error_uniform (e : LedgerError) : (Response.ofLedgerError e).Uniform := by
  rw [Response.ofLedgerError]
  by_cases hidden : Response.isHidden e = true
  · rw [if_pos hidden]
    exact app_error_uniform _
  · rw [if_neg hidden]
    exact ⟨List.mem_singleton_self _, e.code, e.message, ledger_code e, error_body_read _ _⟩

section Requests

variable (limit : Option Nat) (r : Request)

theorem decorated_uniform (x : Response) (shown : r.method ≠ "HEAD") (uniform : x.Uniform) : (decorate r x).Uniform := by
  refine ⟨List.mem_mergeSort.mpr ?_, ?_⟩
  · exact List.mem_append_left _ (List.mem_append_left _ uniform.json)
  · simp only [decorate, beq_iff_eq, shown, if_false]
    exact uniform.told

theorem reply_uniform (x : Response) (routed : r.misrouted = false) (reply : Reply r x) (fails : 400 ≤ x.status) :
    x.Uniform := by
  cases reply with
  | refused e => exact app_error_uniform e
  | failed e => exact ledger_error_uniform e
  | notAllowed route known barred =>
      rw [Request.misrouted, known, Option.any_some, barred] at routed
      cases routed
  | success x below => omega

theorem misrouted_dispatch (misrouted : r.misrouted = true) :
    ∃ route, dispatch limit r = .unlimited (.done (notAllowed route)) := by
  obtain ⟨route, known, barred⟩ := (Option.any_eq_true _ _).mp misrouted
  rw [dispatch, known]
  exact ⟨route, if_pos barred⟩

theorem handle_uniform (shown : r.method ≠ "HEAD") : (handle limit r).Always True (TellsFailure r) := by
  cases misrouted : r.misrouted with
  | false =>
      refine task_always_mono True _ _ ?_ _ (handle_replies limit r)
      rintro x (rfl | ⟨y, reply, rfl⟩)
      · exact ⟨fun fails => absurd fails (by decide : ¬ 400 ≤ 200), by simp [misrouted]⟩
      · refine ⟨fun fails => ⟨fun _ => misrouted, fun _ => ?_⟩, by simp [misrouted]⟩
        exact decorated_uniform r y shown (reply_uniform r y misrouted reply fails)
  | true =>
      rw [handle]
      by_cases options : (r.method == "OPTIONS") = true
      · rw [if_pos options]
        refine unlimited_always True (TellsFailure r) _ ⟨fun fails => absurd fails (by decide : ¬ 400 ≤ 200), ?_⟩
        exact fun _ other => absurd (beq_iff_eq.mp options) other
      · obtain ⟨route, dispatched⟩ := misrouted_dispatch limit r misrouted
        rw [if_neg options, dispatched]
        have silent : (decorate r (notAllowed route)).body = "" := by simp only [decorate, notAllowed, ite_self]
        refine unlimited_always True (TellsFailure r) _ ⟨fun _ => ?_, fun _ _ => ⟨rfl, silent⟩⟩
        exact ⟨fun uniform => absurd uniform (silent_differs _ silent), fun routed => by simp [misrouted] at routed⟩

end Requests
end Http

namespace History

/-- Whatever has happened before, whatever happens meanwhile, whatever fails and on whatever store: a request that fails is
told so in the one form if its path admits its method. If not, it is told nothing but a status. -/
theorem failures_are_uniform_where_routed (r : Request) (shown : r.method ≠ "HEAD") :
    (∀ start events, ∀ record ∈ (run start events).records, record.demand = .request r →
      ∀ x, record.answer = .response x → Http.TellsFailure r x) ∧
    ∀ (σ : Type) (store : AnyStore σ) (s : σ) (limit : Option Nat),
      Http.TellsFailure r ((Http.handle limit r).body.play store s).answer := by
  constructor
  · intro start events record member
    exact request_always r (Http.TellsFailure r) (fun limit => Http.handle_uniform limit r shown) start events record member
  · intro σ store s limit
    exact Program.play_always store True (Http.TellsFailure r) _ (Http.handle_uniform limit r shown).body s

def plain (method path : String) : Request := ⟨method, path, [], []⟩

def asking (r : Request) : List Event := [.ask none (.request r), .poll 0]

theorem transactions_known (method : String) : Http.Route.ofPath? (plain method "/transactions").path = some .transactions :=
  Http.transactions_path (plain method "/transactions") rfl

-- A transfer cannot be told from a request that has no body.
theorem failures_are_uniform_where_routed_empty :
    (plain "POST" "/transactions").method ≠ "HEAD" ∧ (plain "POST" "/transactions").misrouted = false ∧
    ∀ record ∈ (run Store.empty (asking (plain "POST" "/transactions"))).records,
      record.demand = .request (plain "POST" "/transactions") → ∀ x, record.answer = .response x →
        400 ≤ x.status → x.Uniform := by
  have shown : (plain "POST" "/transactions").method ≠ "HEAD" := by decide
  have routed : (plain "POST" "/transactions").misrouted = false := by
    rw [Request.misrouted, transactions_known]
    rfl
  refine ⟨shown, routed, fun record member demand x answer fails => ?_⟩
  have tells := (failures_are_uniform_where_routed _ shown).1 Store.empty _ record member demand x answer
  exact (tells.uniform fails).mpr routed

-- Transfers are not deleted, and whoever tries is not told so.
theorem deletion_told_nothing : ¬ ∀ (events : List Event), ∀ record ∈ (run Store.empty events).records, ∀ r,
    record.demand = .request r → r.method ≠ "HEAD" → ∀ x, record.answer = .response x → 400 ≤ x.status → x.Uniform := by
  intro uniform
  have known := transactions_known "DELETE"
  have task : (Demand.request (plain "DELETE" "/transactions")).task none =
      ⟨.log (Http.requestSpan (plain "DELETE" "/transactions"))
        (.done (.response (Http.decorate (plain "DELETE" "/transactions") (Http.notAllowed .transactions)))), none⟩ := by
    rw [Demand.task, Http.handle, if_neg (by decide), Http.dispatch, known]
    rfl
  obtain ⟨record, member, demand, answer⟩ : ∃ record ∈ (run Store.empty (asking (plain "DELETE" "/transactions"))).records,
      record.demand = .request (plain "DELETE" "/transactions") ∧
      record.answer = .response (Http.decorate (plain "DELETE" "/transactions") (Http.notAllowed .transactions)) := by
    simp only [run, asking, List.foldl, step, task]
    exact ⟨_, List.mem_singleton_self _, rfl, rfl⟩
  have silent : (Http.decorate (plain "DELETE" "/transactions") (Http.notAllowed .transactions)).body = "" := rfl
  exact Http.silent_differs _ silent (uniform _ record member _ demand (by decide) _ answer (by decide : 400 ≤ 405))

end History
end DoubleEntry
