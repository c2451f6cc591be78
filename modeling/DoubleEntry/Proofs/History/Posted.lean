import DoubleEntry.Proofs.Decimal.Text
import DoubleEntry.Proofs.History.Progress
import DoubleEntry.Proofs.History.Uniform
import DoubleEntry.Proofs.History.Verdict
import DoubleEntry.Proofs.Http.Transfers

/-!
Requests that post. Carried out alone on books that are balanced, such a request is always answered: either all that its
operation writes is there, and this is told by the status alone, or it has done nothing, and the answer is an error as
clients are promised it. An account is opened exactly if its id is positive and free.
-/

set_option autoImplicit false

namespace DoubleEntry

open Ledger (Operation Outcome)
open Session (Answer)
open Time (Stamp)

namespace Http

theorem app_error_status (e : AppError) : 400 ≤ (Response.ofAppError e).status := by
  cases e <;> exact Nat.le_of_ble_eq_true rfl

structure Request.Posted (r : Request) : Prop where
  post : r.method = "POST"
  route : ∃ route, Route.ofPath? r.path = some route ∧ route.isWrite = true

structure Request.Opens (r : Request) (b : AccountRequest) : Prop where
  post : r.method = "POST"
  route : Route.ofPath? r.path = some .accounts
  body : ∃ d, readBody r AccountRequest.read = .ok d ∧ AccountRequest.ofDatum? d = some b

/-- How a request that posts fares: with all that it asks for written, or with nothing but an error. -/
inductive Fares (now : Stamp) (book : Book) (r : Request) (x : Response) (later : Book) : Prop
  | created (o : Operation) (asks : operation? r = some o) (status : x.status = 201)
      (writes : Ledger.Writes now book later o) : Fares now book r x later
  | refused (status : 400 ≤ x.status) (uniform : x.Uniform) (kept : later = book) : Fares now book r x later

theorem fares_status (now : Stamp) (book : Book) (r : Request) (x : Response) (later : Book)
    (fares : Fares now book r x later) : x.status = 201 ∨ 400 ≤ x.status ∧ x.Uniform := by
  cases fares with
  | created o asks status writes => exact .inl status
  | refused status uniform kept => exact .inr ⟨status, uniform⟩

theorem fares_balanced (now : Stamp) (book later : Book) (r : Request) (x : Response) (balanced : book.Balanced)
    (fares : Fares now book r x later) : later.Balanced := by
  cases fares with
  | created o asks status writes => exact Ledger.writes_balanced now book later balanced o writes
  | refused status uniform kept =>
      rw [kept]
      exact balanced

section Posted

variable (r : Request)

theorem opens_posted (b : AccountRequest) (opens : r.Opens b) : r.Posted := ⟨opens.post, _, opens.route, rfl⟩

theorem transfers_posted (b : TransferRequest) (transfers : r.Transfers b) : r.Posted :=
  ⟨transfers.posted, _, transfers.route, rfl⟩

theorem opens_operation (b : AccountRequest) (opens : r.Opens b) :
    operation? r = b.check.toOption.map .createAccount := by
  obtain ⟨d, read, found⟩ := opens.body
  have decoded : decodeAccount r = b.check := by
    simp only [decodeAccount, decodeBody, read, Except.mapError, bind, Except.bind, found]
  rw [operation?, opens.post, opens.route, ← decoded]
  rfl

variable (posted : r.Posted)

include posted

theorem posted_shown : r.method ≠ "HEAD" := by
  rw [posted.post]
  decide

theorem posted_write (o : Operation) (asks : operation? r = some o) : o.isRead = false := by
  obtain ⟨route, known, write⟩ := posted.route
  rw [operation?, posted.post, known] at asks
  cases route with
  | health | balance raw | entries raw => cases write
  | accounts | transactions =>
      obtain ⟨input, _, rfl⟩ := Option.map_eq_some_iff.mp asks
      rfl

theorem posted_problem (nothing : operation? r = none) : ∃ e, problem? r = some (.ofAppError e) := by
  obtain ⟨route, known, write⟩ := posted.route
  rw [operation?, posted.post, known] at nothing
  rw [problem?, posted.post, known]
  cases route with
  | health | balance raw | entries raw => cases write
  | accounts =>
      cases decoded : decodeAccount r with
      | error e => exact ⟨e, by simp [Route.admits, Route.isWrite, inputProblem?]⟩
      | ok input => simp [decoded, Route.admits, Route.isWrite, Except.toOption] at nothing
  | transactions =>
      cases decoded : decodeTransfer r with
      | error e => exact ⟨e, by simp [Route.admits, Route.isWrite, inputProblem?]⟩
      | ok input => simp [decoded, Route.admits, Route.isWrite, Except.toOption] at nothing

variable (now : Stamp) (book : Book)

theorem told_fares (o : Operation) (asks : operation? r = some o) (outcome : Outcome) (later : Book)
    (solo : (o.task none).body.solo now none book = .ok (outcome, later)) :
    ((Demand.request r).task none).body.solo now none book = .ok (.response (decorate r (responseTo o outcome)), later) ∧
      Fares now book r (decorate r (responseTo o outcome)) later := by
  have write := posted_write r posted o asks
  refine ⟨?_, ?_⟩
  · rw [demand_solo (.request r) now book o asks, solo]
    rfl
  · rcases Ledger.operation_effect now book later o outcome solo with ⟨_, success, writes⟩ | ⟨failed, kept⟩
    · refine .created o asks ?_ writes
      change (responseTo o outcome).status = 201
      rw [created_response o outcome success write]
      rfl
    · cases error : outcome.error? with
      | none => simp [write, error] at failed
      | some e =>
          rw [failed_response o outcome e error]
          exact .refused (ledger_error_range e).1
            (decorated_uniform r _ (posted_shown r posted) (ledger_error_uniform e)) kept

theorem posted_closes (nothing : operation? r = none) : ∃ x, ((Demand.request r).task none).deadline = none ∧
    ((Demand.request r).task none).body.Closes (.response x) ∧ Fares now book r x book := by
  obtain ⟨e, problem⟩ := posted_problem r posted nothing
  obtain ⟨p, handled, closes⟩ := problem_handled none r _ problem
  refine ⟨decorate r (.ofAppError e), ?_, ?_, .refused (app_error_status e)
    (decorated_uniform r _ (posted_shown r posted) (app_error_uniform e)) rfl⟩
  · rw [Demand.task, handled]
    rfl
  · rw [Demand.task, handled]
    exact Program.closes_bind _ _ _ _ closes (.done _)

theorem posted_fares : ∃ x later,
    ((Demand.request r).task none).body.solo now none book = .ok (.response x, later) ∧ Fares now book r x later := by
  cases asks : operation? r with
  | some o =>
      obtain ⟨⟨outcome, later⟩, solo⟩ := Ledger.operation_answers now book o
      exact ⟨_, later, told_fares r posted now book o asks outcome later solo⟩
  | none =>
      obtain ⟨x, _, closes, fares⟩ := posted_closes r posted now book asks
      exact ⟨x, book, Program.solo_closes now _ _ none book closes, fares⟩

theorem solo_fares (x : Response) (later : Book)
    (solo : ((Demand.request r).task none).body.solo now none book = .ok (.response x, later)) :
    Fares now book r x later := by
  obtain ⟨y, after, same, fares⟩ := posted_fares r posted now book
  cases solo.symm.trans same
  exact fares

end Posted

section Quiet

variable (s : Store)

/-- On a store of its own on which nothing is made to fail, a request gets the answer that it gets by itself, and leaves what
it leaves by itself. -/
theorem posted_executed (idle : History.Idle s) (r : Request) (posted : r.Posted) (more : Nat) : ∃ x later time log,
    (Demand.request r).executed none s more = (some [(.response x, time)], s.leftAt later time log) ∧
      ((Demand.request r).task none).body.solo s.clock none s.committed = .ok (.response x, later) := by
  have free : s.owner = none ∧ s.queue = [] := ⟨idle.owner, idle.queue⟩
  cases asks : operation? r with
  | some o =>
      have write := posted_write r posted o asks
      obtain ⟨x, worked, _⟩ := Ledger.operation_settles o write s.control s.clock s.committed s.log
      have solo := Program.trial_solo s.control s.clock (s.control.calm_passes idle.quiet) _ none _ s.log x worked
      rcases executed_in_time o write none s more free x worked with ⟨time, log, ran⟩ | ⟨limited, _⟩
      · obtain ⟨log, told⟩ := retold_request none s more r o asks x.answer time _ ran
        exact ⟨_, x.book, time, log, told, (told_fares r posted s.clock s.committed o asks _ _ solo).1⟩
      · exact absurd rfl limited
  | none =>
      obtain ⟨x, unlimited, closes, _⟩ := posted_closes r posted s.clock s.committed asks
      obtain ⟨log, tried⟩ := Program.trial_closes s.control s.clock _ _ closes none s.committed s.log
      have comes := lone_trial Answer.refused (s.now + 7 * s.control.latency + more) ((Demand.request r).task none) s _ free
        (fun d limited => by rw [unlimited] at limited; cases limited) (Program.closes_commits_last _ _ closes) tried
        (Nat.succ_pos _) (.inl (by simp only [Nat.zero_mul]; omega))
      have solo := Program.solo_closes s.clock _ _ none s.committed closes
      rw [Demand.executed]
      generalize System.run Answer.refused _ s [.task ((Demand.request r).task none)] = ran at comes
      cases comes with
      | through _ => exact ⟨x, s.committed, _, log, rfl, solo⟩
      | cut d a log limited _ _ =>
          rw [unlimited] at limited
          cases limited

end Quiet

section Openings

variable (now : Stamp) (book : Book) (id : AccountId) (balance : Decimal)

theorem quiet_account_checks (nonneg : 0 ≤ balance.value) (below : balance.value < 10 ^ 23) (positive : 1 ≤ id)
    (free : book.account? id = none) : Ledger.firstOf (Ledger.accountChecks .quiet book ⟨id, balance⟩) = .ok () := by
  have rounded : ¬ 10 ^ 23 ≤ (Amount.round balance).value := by
    rw [Amount.round_reaches]
    exact not_le.mpr below
  have quiet : ∀ context step point, Ledger.faultAt .quiet context step point = none := fun _ _ _ => rfl
  simp [Ledger.accountChecks, Ledger.insertChecks, Ledger.firstOf, quiet, not_lt.mpr nonneg, rounded, free,
    not_lt.mpr positive]

variable (r : Request) (opens : r.Opens ⟨some id, some balance.toText⟩)

include opens

theorem opens_asks : ∃ e, e.value = balance.value ∧
    operation? r = if 1 ≤ id then some (.createAccount ⟨id, e⟩) else none := by
  obtain ⟨e, parsed, alike⟩ := Decimal.parse_text balance
  refine ⟨e, Decimal.alike_value e balance alike, ?_⟩
  rw [opens_operation r _ opens, AccountRequest.check, requireId, requireAmount, parsed]
  by_cases positive : 1 ≤ id
  · rw [if_pos positive, if_pos positive]
    rfl
  · rw [if_neg positive, if_neg positive]
    rfl

theorem created_opens (x : Response) (later : Book) (fares : Fares now book r x later) (created : x.status = 201) :
    1 ≤ id ∧ book.account? id = none ∧ ∃ a, a.id = id ∧ later = book.opened a := by
  obtain ⟨e, _, asks⟩ := opens_asks id balance r opens
  cases fares with
  | created o own status writes =>
      by_cases positive : 1 ≤ id
      · rw [asks, if_pos positive] at own
        cases own
        obtain ⟨opening, rfl⟩ := Ledger.account_opens now book later ⟨id, e⟩ writes
        exact ⟨positive, opening.free, _, rfl, rfl⟩
      · rw [asks, if_neg positive] at own
        cases own
  | refused status uniform kept => omega

variable (nonneg : 0 ≤ balance.value) (below : balance.value < 10 ^ 23)

include nonneg below

theorem free_created (positive : 1 ≤ id) (free : book.account? id = none) : ∃ x later,
    ((Demand.request r).task none).body.solo now none book = .ok (.response x, later) ∧ x.status = 201 := by
  obtain ⟨e, value, asks⟩ := opens_asks id balance r opens
  rw [← value] at nonneg below
  rw [if_pos positive] at asks
  obtain ⟨tried, worked, opened⟩ := Ledger.account_trial now book ⟨id, e⟩ .quiet []
  have solo := Program.trial_solo .quiet now (Control.calm_passes _ rfl) _ none book [] tried worked
  obtain ⟨answer, _⟩ := opened.opened (quiet_account_checks book id e nonneg below positive free)
  obtain ⟨told, _⟩ := told_fares r (opens_posted r _ opens) now book _ asks tried.answer tried.book solo
  refine ⟨_, _, told, ?_⟩
  rw [answer]
  rfl

/-- The id decides whether an account is opened. There is one account more then, and no other has come or gone. -/
theorem opening_fares (x : Response) (later : Book)
    (solo : ((Demand.request r).task none).body.solo now none book = .ok (.response x, later)) :
    (x.status = 201 ↔ 1 ≤ id ∧ book.account? id = none) ∧
      ∀ other, later.account? other = none ↔ book.account? other = none ∧ ¬ (x.status = 201 ∧ other = id) := by
  have fares := solo_fares r (opens_posted r _ opens) now book x later solo
  refine ⟨⟨fun created => ?_, ?_⟩, fun other => ?_⟩
  · obtain ⟨positive, free, _⟩ := created_opens now book id balance r opens x later fares created
    exact ⟨positive, free⟩
  · rintro ⟨positive, free⟩
    obtain ⟨y, after, same, created⟩ := free_created now book id balance r opens nonneg below positive free
    cases solo.symm.trans same
    exact created
  · by_cases created : x.status = 201
    · obtain ⟨_, free, a, rfl, rfl⟩ := created_opens now book id balance r opens x later fares created
      rw [Book.opened_account book a free other]
      by_cases own : a.id = other
      · simp [own, created]
      · simp [own, Ne.symm own]
    · cases fares with
      | created o asks status writes => exact absurd status created
      | refused status uniform kept => simp [kept, created]

end Openings

end Http
end DoubleEntry
