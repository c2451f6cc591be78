import DoubleEntry.Proofs.History.Answers
import DoubleEntry.Proofs.History.Growth
import DoubleEntry.Proofs.History.Retold
import DoubleEntry.Proofs.Http.Hidden
import DoubleEntry.Proofs.Http.Transfers

/-!
Internal errors over HTTP. Wherever in its calls the ledger fails behind a request, for whatever reason, and whether or not
it can be undone: the client is told the same, word for word.
-/

set_option autoImplicit false

namespace DoubleEntry

open Ledger (Operation Outcome)
open Session (Answer)
open Http (Request Response)

def Ledger.Outcome.isInternal (outcome : Outcome) : Bool := outcome.error?.any LedgerError.isInternal

namespace Http

theorem internal_response (r : Request) (o : Operation) (outcome : Outcome) (internal : outcome.isInternal = true) :
    (decorate r (responseTo o outcome)).status = 500 ∧ (decorate r (responseTo o outcome)).body = shownHidden r := by
  obtain ⟨e, failed, isInternal⟩ := (Option.any_eq_true _ _).mp internal
  obtain ⟨status, body⟩ := internal_hidden e isInternal
  simp only [failed_response o outcome e failed, decorate, shownHidden, body, status, and_self]

section Played

variable {σ : Type} (store : AnyStore σ) (s : σ) (limit : Option Nat) (r : Request) (o : Operation)
  (asks : operation? r = some o)

include asks

theorem played_request : ((handle limit r).body.play store s).answer =
    decorate r (responseTo o ((o.task limit).body.play store s).answer) := by
  have mirrored := Program.mirrors_play store _ _ _ (request_mirrors limit r o asks).body s
  have closed := Program.play_bind_closes store (handle limit r).body (fun x => .done (.response x)) Answer.response s
    fun x => .done _
  have wrapped := Program.play_bind_closes store (o.task limit).body (fun outcome => .done (.outcome outcome))
    Answer.outcome s fun outcome => .done _
  change ((handle limit r).body.bind fun x => .done (.response x)).play store s =
    ⟨retold r o (((o.task limit).body.bind fun outcome => .done (.outcome outcome)).play store s).answer, _, _⟩ at mirrored
  rw [closed, wrapped] at mirrored
  exact Answer.response.inj (congrArg Played.answer mirrored)

end Played

end Http

namespace History

def Gets (events : List Event) (id : Nat) (x : Response) : Prop :=
  ∀ y, (∃ told ∈ (run Store.empty events).records, told.id = id ∧ told.answer = .response y) ↔ y = x

/-- A request of a history whose call of the ledger ends in an internal error. -/
structure EndsInternal (events : List Event) (id : Nat) (r : Request) : Prop where
  asked : ∃ started, (run Store.empty events).demands[id]? = some (.request r, started)
  ends : ∃ own ∈ (run Store.empty (events.map Event.bare)).records, own.id = id ∧ ∃ o outcome,
    own.demand = .operation o ∧ own.answer = .outcome outcome ∧ outcome.isInternal = true

section Records

variable (events : List Event)

theorem internal_writes (own : Record) (member : own ∈ (run Store.empty events).records) (o : Operation)
    (demand : own.demand = .operation o) (outcome : Outcome) (answer : own.answer = .outcome outcome)
    (internal : outcome.isInternal = true) : o.isRead = false := by
  have asks : own.demand.operation? = some o := by
    rw [demand]
    rfl
  cases o with
  | createAccount input | createTransfer input => rfl
  | getBalance id =>
      have told := read_answered Store.empty events own member _ asks rfl (fun book => .account (Ledger.balanceIn book id))
        fun now book => Ledger.get_balance_solo now book id
      rw [demand, answer] at told
      cases told
      rw [Ledger.balanceIn] at internal
      split at internal <;> cases internal
  | listEntries id =>
      have told := read_answered Store.empty events own member _ asks rfl (fun book => .entries (Ledger.entriesIn book id))
        fun now book => Ledger.list_entries_solo now book id
      rw [demand, answer] at told
      cases told
      rw [Ledger.entriesIn] at internal
      split at internal <;> cases internal

theorem own_told (own : Record) (member : own ∈ (run Store.empty (events.map Event.bare)).records) :
    ∃ told ∈ (run Store.empty events).records, own.Retold told := by
  have related := (requests_refine_operations Store.empty events).records
  generalize (run Store.empty (events.map Event.bare)).records = first at related member
  generalize (run Store.empty events).records = second at related
  induction related with
  | nil => cases member
  | @cons x y xs ys here _ ih =>
      rcases List.mem_cons.mp member with rfl | later
      · exact ⟨y, List.mem_cons_self, here⟩
      · obtain ⟨told, among, retold⟩ := ih later
        exact ⟨told, List.mem_cons_of_mem _ among, retold⟩

theorem told_once (first second : Record) (firstMember : first ∈ (run Store.empty events).records)
    (secondMember : second ∈ (run Store.empty events).records) (same : first.id = second.id) : first = second :=
  List.inj_on_of_nodup_map (run_told Store.empty events).once firstMember secondMember same

theorem internal_told (id : Nat) (r : Request) (internal : EndsInternal events id r) :
    ∃ x, Gets events id x ∧ x.status = 500 ∧ x.body = Http.hiddenBody := by
  obtain ⟨started, asked⟩ := internal.asked
  obtain ⟨own, member, rfl, o, outcome, demand, answer, isInternal⟩ := internal.ends
  obtain ⟨told, among, retold⟩ := own_told events own member
  have write := internal_writes _ own member o demand outcome answer isInternal
  have request : told.demand = .request r := by
    have found := run_asked Store.empty events told among
    rw [retold.id, asked] at found
    exact (congrArg Prod.fst (Option.some.inj found)).symm
  have asks := bare_asks r o (by rw [← request, ← retold.demand, demand])
  have tells : told.answer = .response (Http.decorate r (Http.responseTo o outcome)) := by
    rw [retold.answer, request, Demand.retells, asks, answer]
    rfl
  obtain ⟨status, body⟩ := Http.internal_response r o outcome isInternal
  have posted := (Http.asked_posts r o asks write).1
  refine ⟨_, ?_, status, ?_⟩
  · intro y
    constructor
    · rintro ⟨other, otherMember, same, otherAnswer⟩
      rw [told_once events other told otherMember among (same.trans retold.id.symm), tells] at otherAnswer
      exact (Answer.response.inj otherAnswer).symm
    · rintro rfl
      exact ⟨told, among, retold.id, tells⟩
  · rw [body, Http.shownHidden, posted]
    rfl

end Records

/-- An error of the ledger is told with its status, code and message, unless it is internal: then all that is told is one
fixed text. So whatever two requests fail of, at any step, with any numbers and texts in it and however it ends that the
unit of work is undone, they are answered alike: in all histories, and for one request on any two stores. In a history,
nobody else gets that status either. -/
theorem errors_leak_nothing :
    (∀ e : LedgerError, Http.Told e (Response.ofLedgerError e)) ∧
    (∀ (events others : List Event) (id other : Nat) (r q : Request),
      EndsInternal events id r → EndsInternal others other q →
      ∃ x y, Gets events id x ∧ Gets others other y ∧ x.status = 500 ∧ y.status = 500 ∧ x.body = y.body) ∧
    (∀ events, ∀ told ∈ (run Store.empty events).records, ∀ r, told.demand = .request r →
      ∀ x, told.answer = .response x → x.status = 500 → x.body = Http.shownHidden r) ∧
    ∀ (σ τ : Type) (store : AnyStore σ) (other : AnyStore τ) (s : σ) (t : τ) (limit : Option Nat) (r : Request)
      (o : Operation), Http.operation? r = some o →
      ((o.task limit).body.play store s).answer.isInternal = true →
      ((o.task limit).body.play other t).answer.isInternal = true →
      ((Http.handle limit r).body.play store s).answer.status = 500 ∧
        ((Http.handle limit r).body.play other t).answer.status = 500 ∧
        ((Http.handle limit r).body.play store s).answer.body = ((Http.handle limit r).body.play other t).answer.body := by
  refine ⟨Http.ledger_error_told, ?_, ?_, ?_⟩
  · intro events others id other r q first second
    obtain ⟨x, gets, status, body⟩ := internal_told events id r first
    obtain ⟨y, otherGets, otherStatus, otherBody⟩ := internal_told others other q second
    exact ⟨x, y, gets, otherGets, status, otherStatus, body.trans otherBody.symm⟩
  · intro events told member r
    exact request_always r _ (Http.handle_hidden · r) Store.empty events told member
  · intro σ τ store other s t limit r o asks first second
    rw [Http.played_request store s limit r o asks, Http.played_request other t limit r o asks]
    obtain ⟨status, body⟩ := Http.internal_response r o _ first
    obtain ⟨otherStatus, otherBody⟩ := Http.internal_response r o _ second
    exact ⟨status, otherStatus, body.trans otherBody.symm⟩

def payment (amount : String) : Request :=
  ⟨"POST", "/transactions", [("content-type", "application/json")], Text.encode (Http.transferJson 1 2 amount)⟩

def troubled (faults : List FailPoint) (d : Demand) : List Event :=
  [.ask none (.operation (.createAccount ⟨1, .ofWhole 7 (by decide)⟩)), .poll 0,
    .ask none (.operation (.createAccount ⟨2, .zero⟩)), .poll 1, .control fun _ => ⟨faults, 0⟩, .ask none d, .poll 2]

theorem payment_asks (amount : String) (t : Transfer) (small : (payment amount).body.length ≤ Http.bodyLimit)
    (checked : Http.TransferRequest.check ⟨some 1, some 2, some amount⟩ = .ok t) :
    Http.operation? (payment amount) = some (.createTransfer t) := by
  have announced : (([("content-type", "application/json")].find? fun h => h.1.toLower == "content-type").map
      Prod.snd).any Http.announcesJson = true := by decide +kernel
  have pays : (payment amount).Pays 1 2 amount := ⟨rfl, rfl, announced, small, by decide, rfl⟩
  exact Http.transfers_operation _ _ (Http.pays_transfers _ 1 2 amount pays) t checked

-- One cannot be credited, nor be undone; another one cannot be committed.
theorem errors_leak_nothing_twice : ∃ x y,
    Gets (troubled [.creditAccount, .rollback] (.request (payment "3"))) 2 x ∧
    Gets (troubled [.commit] (.request (payment "4.5"))) 2 y ∧ x.status = 500 ∧ y.status = 500 ∧ x.body = y.body := by
  have first : Http.operation? (payment "3") = some (.createTransfer ⟨1, 2, ⟨false, 3, 0, by decide, by decide⟩⟩) :=
    payment_asks _ _ (by decide +kernel) (by decide +kernel)
  have second : Http.operation? (payment "4.5") = some (.createTransfer ⟨1, 2, ⟨false, 45, 1, by decide, by decide⟩⟩) :=
    payment_asks _ _ (by decide +kernel) (by decide +kernel)
  refine errors_leak_nothing.2.1 _ _ 2 2 (payment "3") (payment "4.5") ⟨⟨_, rfl⟩, ?_⟩ ⟨⟨_, rfl⟩, ?_⟩
  · simp only [troubled, List.map, Event.bare, Demand.bare, first]
    exact ⟨_, List.getLast_mem (by decide +kernel), rfl, _, _, rfl, rfl, rfl⟩
  · simp only [troubled, List.map, Event.bare, Demand.bare, second]
    exact ⟨_, List.getLast_mem (by decide +kernel), rfl, _, _, rfl, rfl, rfl⟩

end History
end DoubleEntry
