import DoubleEntry.Proofs.Ledger.Conduct
import DoubleEntry.Proofs.Program.Play

/-!
The ledger's side of the protocol with a store, whatever the store replies. An operation that changes accounts
makes the calls of its plan one by one, stops at the first reply that it does not want, and ends the unit of work
by exactly one commit or rollback.
-/

set_option autoImplicit false

namespace DoubleEntry

open Time (Stamp)

-- Replies with which an operation goes on: no failure, both accounts, and one row changed at least.
def Exchange.isFavourable : Exchange → Bool
  | ⟨_, .error _⟩ => false
  | ⟨.getAccounts _, .ok found⟩ => decide (2 ≤ found.length)
  | ⟨.debit _ _ _, .ok rows⟩ => rows != 0
  | ⟨.credit _ _ _, .ok rows⟩ => rows != 0
  | _ => true

namespace Ledger

variable {σ α : Type} (store : AnyStore σ)

-- The work of an operation: all of its plan went well, or it stopped at the first reply that did not.
inductive Carried (plan : List Call) : Result α → List Exchange → Prop
  | whole (value : α) (trace : List Exchange) (calls : trace.map Exchange.call = plan)
      (fine : ∀ x ∈ trace, x.isFavourable = true) : Carried plan (.ok value) trace
  | part (e : LedgerError) (done : List Exchange) (last : Exchange) (rest : List Call)
      (calls : plan = done.map Exchange.call ++ last.call :: rest) (fine : ∀ x ∈ done, x.isFavourable = true)
      (unwanted : last.isFavourable = false) : Carried plan (.error e) (done ++ [last])

theorem carried_cons (plan : List Call) (x : Exchange) (fine : x.isFavourable = true) (r : Result α)
    (trace : List Exchange) (carried : Carried plan r trace) : Carried (x.call :: plan) r (x :: trace) := by
  have fineCons : ∀ rest : List Exchange, (∀ y ∈ rest, y.isFavourable = true) →
      ∀ y ∈ x :: rest, y.isFavourable = true := by
    intro rest fineRest y member
    rcases List.mem_cons.mp member with rfl | later
    · exact fine
    · exact fineRest y later
  cases carried with
  | whole value trace calls fineRest =>
      exact .whole value _ (by rw [List.map_cons, calls]) (fineCons trace fineRest)
  | part e done last rest calls fineDone unwanted =>
      exact .part e (x :: done) last rest (by rw [calls]; rfl) (fineCons done fineDone) unwanted

theorem carried_attempt (plan : List Call) (c : Call) (failed : StoreError → LedgerError)
    (next : c.Reply → Program (Result α)) (s : σ)
    (wanted : ∀ value, Exchange.isFavourable ⟨c, .ok value⟩ = true →
      Carried plan ((next value).play store (store.answer s c).2).answer
        ((next value).play store (store.answer s c).2).trace)
    (unwanted : ∀ value, Exchange.isFavourable ⟨c, .ok value⟩ = false →
      ∃ e, (next value).Closes (.error e)) :
    Carried (c :: plan) ((attempt c failed next).play store s).answer ((attempt c failed next).play store s).trace := by
  unfold attempt Program.play
  cases replied : (store.answer s c).1 with
  | error e => exact .part (failed e) [] ⟨c, .error e⟩ plan rfl (fun _ none => by cases none) rfl
  | ok value =>
      cases liked : Exchange.isFavourable ⟨c, .ok value⟩ with
      | true => exact carried_cons plan ⟨c, .ok value⟩ liked _ _ (wanted value liked)
      | false =>
          obtain ⟨e, closes⟩ := unwanted value liked
          simp only [Program.play_closes store _ _ _ closes]
          exact .part e [] ⟨c, .ok value⟩ plan rfl (fun _ none => by cases none) liked

def accountWork (input : NewAccount) (now : Stamp) : List Call :=
  [.createAccount ⟨input.id, Amount.round input.initialBalance, now, now⟩,
    .append ⟨input.id, Amount.round input.initialBalance, now⟩]

def transferWork (input : Transfer) (now : Stamp) : List Call :=
  [.getAccounts [input.source, input.destination],
    .debit input.source (Amount.round input.amount) now,
    .credit input.destination (Amount.round input.amount) now,
    .append ⟨input.source, (Amount.round input.amount).neg, now⟩,
    .append ⟨input.destination, Amount.round input.amount, now⟩]

theorem insert_account_carried (context : String) (input : NewAccount) (s : σ) :
    ∃ now, Carried (accountWork input now)
      ((insertAccount context input.id (Amount.round input.initialBalance)).play store s).answer
      ((insertAccount context input.id (Amount.round input.initialBalance)).play store s).trace := by
  refine ⟨(store.clock s).1, ?_⟩
  refine carried_attempt store _ _ _ _ _ ?_ fun _ disliked => by cases disliked
  intro account _
  refine carried_attempt store _ _ _ _ _ ?_ fun _ disliked => by cases disliked
  exact fun entry _ => .whole account [] rfl fun _ none => by cases none

theorem move_funds_carried (context : String) (input : Transfer) (s : σ) :
    ∃ now, Carried (transferWork input now)
      ((moveFunds context input.source input.destination (Amount.round input.amount)).play store s).answer
      ((moveFunds context input.source input.destination (Amount.round input.amount)).play store s).trace := by
  refine ⟨(store.clock (store.answer s (.getAccounts [input.source, input.destination])).2).1, ?_⟩
  refine carried_attempt store _ _ _ _ _ ?_ ?_
  · intro found both
    have enough : ¬ found.length < 2 := Nat.not_lt.mpr (of_decide_eq_true both)
    rw [if_neg enough]
    refine carried_attempt store _ _ _ _ _ ?_ ?_
    · intro debited some
      rw [if_neg (by simpa [Exchange.isFavourable] using some)]
      refine carried_attempt store _ _ _ _ _ ?_ ?_
      · intro credited some
        rw [if_neg (by simpa [Exchange.isFavourable] using some)]
        refine carried_attempt store _ _ _ _ _ ?_ fun _ disliked => by cases disliked
        intro left _
        refine carried_attempt store _ _ _ _ _ ?_ fun _ disliked => by cases disliked
        exact fun right _ => .whole () [] rfl fun _ none => by cases none
      · intro credited none
        rw [if_pos (by simpa [Exchange.isFavourable] using none)]
        exact ⟨_, .done _⟩
    · intro debited none
      rw [if_pos (by simpa [Exchange.isFavourable] using none)]
      exact ⟨_, .log _ _ _ (.done _)⟩
  · intro found missing
    have few : found.length < 2 := Nat.not_le.mp (of_decide_eq_false missing)
    rw [if_pos few]
    exact ⟨_, .done _⟩

-- All calls of an operation with their replies, and whether it succeeds.
inductive UnitTrace (work : List Call) : List Exchange → Bool → Prop
  | refused (e : StoreError) : UnitTrace work [⟨.begin, .error e⟩] false
  | abandoned (done : List Exchange) (last : Exchange) (rest : List Call) (reply : Except StoreError Unit)
      (calls : work = done.map Exchange.call ++ last.call :: rest) (fine : ∀ x ∈ done, x.isFavourable = true)
      (unwanted : last.isFavourable = false) :
      UnitTrace work (⟨.begin, .ok ()⟩ :: done ++ [last, ⟨.rollback, reply⟩]) false
  | settled (done : List Exchange) (reply : Except StoreError Unit) (calls : done.map Exchange.call = work)
      (fine : ∀ x ∈ done, x.isFavourable = true) :
      UnitTrace work (⟨.begin, .ok ()⟩ :: done ++ [⟨.commit, reply⟩]) reply.isOk

theorem rollback_play (context : String) (e : LedgerError) (s : σ) :
    (settle context (.error e : Result α)).play store s =
      ⟨.error e, [⟨.rollback, (store.answer s .rollback).1⟩], (store.answer s .rollback).2⟩ := by
  simp only [settle, Program.play]
  cases (store.answer s .rollback).1 <;> rfl

theorem unit_trace (context : String) (body : Program (Result α)) (work : Stamp → List Call) (s : σ)
    (carried : ∀ s, ∃ now, Carried (work now) (body.play store s).answer (body.play store s).trace) :
    ∃ now, UnitTrace (work now) ((inUnit context body).play store s).trace
      ((inUnit context body).play store s).answer.isOk := by
  obtain ⟨now, did⟩ := carried (store.answer s .begin).2
  refine ⟨now, ?_⟩
  unfold inUnit attempt Program.play
  cases begun : (store.answer s .begin).1 with
  | error e => exact .refused e
  | ok done =>
      simp only [Program.play_bind]
      generalize (body.play store (store.answer s .begin).2).answer = r at did
      generalize (body.play store (store.answer s .begin).2).trace = trace at did
      generalize (body.play store (store.answer s .begin).2).state = after
      cases did with
      | part e done last rest calls fine unwanted =>
          rw [rollback_play, List.append_assoc]
          exact .abandoned done last rest _ calls fine unwanted
      | whole value trace calls fine =>
          simp only [settle, attempt, Program.play]
          cases (store.answer after .commit).1 with
          | error e => exact .settled trace (.error e) calls fine
          | ok ended => exact .settled trace (.ok ended) calls fine

-- What the shape of a trace comes to: success is a commit that went well, and a unit of work that was begun gets
-- one commit or rollback, as its last call.
structure KeepsProtocol (work : List Call) (trace : List Exchange) (success : Bool) : Prop where
  shape : UnitTrace work trace success
  returns : success = true ↔ ⟨.commit, .ok ()⟩ ∈ trace
  ends : ⟨.begin, .ok ()⟩ ∈ trace →
    ∃ front last, trace = front ++ [last] ∧ last.call.isEnd = true ∧ ∀ x ∈ front, x.call.isEnd = false

theorem work_keeps_open (done : List Exchange) (isWork : ∀ x ∈ done, x.call.isWork = true) :
    (⟨.commit, .ok ()⟩ : Exchange) ∉ (⟨.begin, .ok ()⟩ : Exchange) :: done ∧
      ∀ x ∈ (⟨.begin, .ok ()⟩ : Exchange) :: done, x.call.isEnd = false := by
  have stillOpen : ∀ x ∈ (⟨.begin, .ok ()⟩ : Exchange) :: done, x.call.isEnd = false := by
    intro x member
    rcases List.mem_cons.mp member with rfl | inside
    · rfl
    · exact (work_neither_reads_nor_ends x.call (isWork x inside)).2
  refine ⟨?_, stillOpen⟩
  intro committed
  cases stillOpen _ committed

theorem keeps_of_shape (work : List Call) (isWork : ∀ c ∈ work, c.isWork = true) (trace : List Exchange)
    (success : Bool) (shape : UnitTrace work trace success) : KeepsProtocol work trace success := by
  cases shape with
  | refused e =>
      refine ⟨.refused e, ⟨(fun impossible => by cases impossible), ?_⟩, ?_⟩
      · intro committed
        cases List.mem_singleton.mp committed
      · intro begun
        cases List.mem_singleton.mp begun
  | abandoned done last rest reply calls fine unwanted =>
      have inWork : ∀ x ∈ done ++ [last], x.call.isWork = true := by
        intro x member
        apply isWork x.call
        rw [calls]
        rcases List.mem_append.mp member with earlier | latest
        · exact List.mem_append_left _ (List.mem_map_of_mem earlier)
        · rw [List.mem_singleton.mp latest]
          exact List.mem_append_right _ List.mem_cons_self
      obtain ⟨notCommitted, stillOpen⟩ := work_keeps_open (done ++ [last]) inWork
      have split : (⟨.begin, .ok ()⟩ : Exchange) :: done ++ [last, ⟨.rollback, reply⟩] =
          (⟨.begin, .ok ()⟩ :: (done ++ [last])) ++ [⟨.rollback, reply⟩] := by simp
      refine ⟨.abandoned done last rest reply calls fine unwanted, ⟨(fun impossible => by cases impossible), ?_⟩, ?_⟩
      · intro committed
        rw [split] at committed
        rcases List.mem_append.mp committed with inside | latest
        · exact absurd inside notCommitted
        · cases List.mem_singleton.mp latest
      · exact fun _ => ⟨_, _, split, rfl, stillOpen⟩
  | settled done reply calls fine =>
      have inWork : ∀ x ∈ done, x.call.isWork = true := by
        intro x member
        apply isWork x.call
        rw [← calls]
        exact List.mem_map_of_mem member
      obtain ⟨notCommitted, stillOpen⟩ := work_keeps_open done inWork
      refine ⟨.settled done reply calls fine, ?_, fun _ => ⟨_, _, rfl, rfl, stillOpen⟩⟩
      cases reply with
      | ok value => exact ⟨fun _ => List.mem_append_right _ (List.mem_singleton.mpr rfl), fun _ => rfl⟩
      | error e =>
          refine ⟨(fun impossible => by cases impossible), ?_⟩
          intro committed
          rcases List.mem_append.mp committed with inside | latest
          · exact absurd inside notCommitted
          · cases List.mem_singleton.mp latest

-- How an operation is carried out on a store: not at all, or as a unit of work at one reading of the clock.
def CarriedOut (rejection? : Option LedgerError) (work : Stamp → List Call) (s : σ)
    (played : Played σ (Result α)) : Prop :=
  match rejection? with
  | some e => played = ⟨.error e, [], s⟩
  | none => ∃ now, KeepsProtocol (work now) played.trace played.answer.isOk

theorem unit_protocol (operation context : String) (body : Program (Result α)) (line : α → LogLine)
    (work : Stamp → List Call) (s : σ) (isWork : ∀ now, ∀ c ∈ work now, c.isWork = true)
    (carried : ∀ s, ∃ now, Carried (work now) (body.play store s).answer (body.play store s).trace) :
    ∃ now, KeepsProtocol (work now)
      (((bounded none operation (inUnit context body)).bind (reported line)).body.play store s).trace
      (((bounded none operation (inUnit context body)).bind (reported line)).body.play store s).answer.isOk := by
  obtain ⟨now, shape⟩ := unit_trace store context body work s carried
  have logged := Program.play_bind_closes store (inUnit context body) (reported line) id s (reported_closes line)
  refine ⟨now, keeps_of_shape _ (isWork now) _ _ ?_⟩
  change UnitTrace (work now) (((inUnit context body).bind (reported line)).play store s).trace
    (((inUnit context body).bind (reported line)).play store s).answer.isOk
  rw [logged]
  exact shape

theorem create_account_protocol (input : NewAccount) (s : σ) :
    CarriedOut (Operation.createAccount input).rejection? (accountWork input) s
      ((createAccount none input).body.play store s) := by
  unfold CarriedOut
  cases rejected : (Operation.createAccount input).rejection? with
  | some e =>
      rw [rejected_account none input e rejected]
      rfl
  | none =>
      rw [accepted_account none input rejected]
      refine unit_protocol store _ _ _ _ (accountWork input) s ?_ (insert_account_carried store _ input)
      simp [accountWork, Call.isWork]

theorem create_transfer_protocol (input : Transfer) (s : σ) :
    CarriedOut (Operation.createTransfer input).rejection? (transferWork input) s
      ((createTransfer none input).body.play store s) := by
  unfold CarriedOut
  cases rejected : (Operation.createTransfer input).rejection? with
  | some e =>
      rw [rejected_transfer none input e rejected]
      rfl
  | none =>
      rw [accepted_transfer none input rejected]
      refine unit_protocol store _ _ _ _ (transferWork input) s ?_ (move_funds_carried store _ input)
      simp [transferWork, Call.isWork]

-- Both operations that change accounts keep to the protocol on every store.
theorem operations_keep_protocol (s : σ) :
    (∀ input, CarriedOut (Operation.createAccount input).rejection? (accountWork input) s
      ((createAccount none input).body.play store s)) ∧
    ∀ input, CarriedOut (Operation.createTransfer input).rejection? (transferWork input) s
      ((createTransfer none input).body.play store s) :=
  ⟨fun input => create_account_protocol store input s, fun input => create_transfer_protocol store input s⟩

end Ledger
end DoubleEntry
