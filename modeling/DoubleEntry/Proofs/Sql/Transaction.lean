import DoubleEntry.Proofs.Ledger.Protocol
import DoubleEntry.Proofs.Sql.Server
import Mathlib.Data.List.Forall2

/-!
The transactions of the ledger as they go over the wire, whatever the server replies. The statements of an operation
are sent one by one between a begin and its commit; the first reply that is not wanted leads to a rollback instead.
A balance is only ever changed by an amount, in the same statement that compares it.
-/

set_option autoImplicit false

namespace DoubleEntry.Sql

open Ledger (Operation Result)
open Time (Stamp)

def Sent.isData : Sent → Bool
  | query _ _ | execute _ _ => true
  | _ => false

-- Replies with which a transaction goes on: both accounts, one row changed at least, the row that was inserted.
def wellAnswered : Sent → Reply → Bool
  | .query _ (.select _ _ _ _ _), reply =>
    match reply.rowsOf.bind fun rows => rows.mapM accountOfRow with
    | .ok found => decide (2 ≤ found.length)
    | .error _ => false
  | .query _ (.insert table _ _), reply =>
    if table = accounts then (reply.rowsOf.bind (inserted accountOfRow)).isOk
    else (reply.rowsOf.bind (inserted entryOfRow)).isOk
  | .query _ _, reply => reply.rowsOf.isOk
  | .execute _ _, reply =>
    match reply.affectedOf with
    | .ok n => n != 0
    | .error _ => false
  | .begin, reply | .commit, reply | .rollback, reply | .startRollback, reply => reply.doneOf.isOk

def accountStatements (input : NewAccount) (now : Stamp) : List Sent :=
  [.query .qualified (.insert accounts
      [(AccountColumn.id, .bigint input.id), (AccountColumn.balance, .decimal (Amount.round input.initialBalance)),
       (AccountColumn.created, .timestamp now), (AccountColumn.modified, .timestamp now)] AccountColumn.all),
    .query .qualified (.insert ledgerEntries
      [(EntryColumn.account, .bigint input.id), (EntryColumn.amount, .decimal (Amount.round input.initialBalance)),
       (EntryColumn.created, .timestamp now)] EntryColumn.all)]

def transferStatements (input : Transfer) (now : Stamp) : List Sent :=
  let amount := Amount.round input.amount
  [.query .qualified (.select AccountColumn.all accounts
      [.among AccountColumn.id [.bigint input.source, .bigint input.destination]] none none),
    .execute .qualified (.update accounts
      [.decrease AccountColumn.balance (.decimal amount), .set AccountColumn.modified (.timestampUtc now)]
      [.equals AccountColumn.id (.bigint input.source), .atLeast AccountColumn.balance (.decimal amount)]),
    .execute .qualified (.update accounts
      [.increase AccountColumn.balance (.decimal amount), .set AccountColumn.modified (.timestampUtc now)]
      [.equals AccountColumn.id (.bigint input.destination)]),
    .query .qualified (.insert ledgerEntries
      [(EntryColumn.account, .bigint input.source), (EntryColumn.amount, .decimal amount.neg),
       (EntryColumn.created, .timestamp now)] EntryColumn.all),
    .query .qualified (.insert ledgerEntries
      [(EntryColumn.account, .bigint input.destination), (EntryColumn.amount, .decimal amount),
       (EntryColumn.created, .timestamp now)] EntryColumn.all)]

theorem account_work_wire (input : NewAccount) (now : Stamp) :
    (Ledger.accountWork input now).map wire = accountStatements input now := rfl

theorem transfer_work_wire (input : Transfer) (now : Stamp) :
    (Ledger.transferWork input now).map wire = transferStatements input now := rfl

-- What follows the end of a transaction: nothing, or its rollback if the end failed.
def Dropped (reply : Reply) (tail : List (Sent × Reply)) : Prop :=
  if reply.doneOf.isOk then tail = [] else ∃ second, tail = [(.startRollback, second)]

-- All that is sent for an operation with the replies, and whether it succeeds.
inductive Transaction (statements : List Sent) : List (Sent × Reply) → Bool → Prop
  | refused (reply : Reply) (fails : wellAnswered .begin reply = false) : Transaction statements [(.begin, reply)] false
  | rolledBack (begun : Reply) (done : List (Sent × Reply)) (last : Sent × Reply) (rest : List Sent) (reply : Reply)
      (tail : List (Sent × Reply)) (opened : wellAnswered .begin begun = true)
      (split : statements = done.map Prod.fst ++ last.1 :: rest) (fine : ∀ x ∈ done, wellAnswered x.1 x.2 = true)
      (unwanted : wellAnswered last.1 last.2 = false) (dropped : Dropped reply tail) :
      Transaction statements ((.begin, begun) :: (done ++ last :: (.rollback, reply) :: tail)) false
  | committed (begun : Reply) (done : List (Sent × Reply)) (reply : Reply) (tail : List (Sent × Reply))
      (opened : wellAnswered .begin begun = true) (whole : done.map Prod.fst = statements)
      (fine : ∀ x ∈ done, wellAnswered x.1 x.2 = true) (dropped : Dropped reply tail) :
      Transaction statements ((.begin, begun) :: (done ++ (.commit, reply) :: tail)) (wellAnswered .commit reply)

-- A call of the work and what was sent for it.
structure Told (x : Exchange) (y : Sent × Reply) : Prop where
  sent : y.1 = wire x.call
  favourable : wellAnswered y.1 y.2 = x.isFavourable

theorem work_told (c : Call) (reply : Reply) (isWork : c.isWork = true) :
    Told ⟨c, received c reply⟩ (wire c, reply) := by
  refine ⟨rfl, ?_⟩
  cases c with
  | getAccounts ids =>
      simp only [wire, selectAccounts, wellAnswered, received, decoded]
      cases reply.rowsOf.bind fun rows => rows.mapM accountOfRow <;> rfl
  | createAccount a =>
      simp only [wire, insertAccount, wellAnswered, received, decoded, if_true]
      cases reply.rowsOf.bind (inserted accountOfRow) <;> rfl
  | append e =>
      simp only [wire, insertEntry, wellAnswered, received, decoded]
      rw [if_neg (by decide)]
      cases reply.rowsOf.bind (inserted entryOfRow) <;> rfl
  | debit id amount now | credit id amount now =>
      simp only [wire, wellAnswered, received, decoded]
      cases reply.affectedOf <;> rfl
  | getAccount id | listEntries id | begin | commit | rollback => cases isWork

theorem work_sends (done rest : List Exchange) (sent : List (Sent × Reply)) (isWork : ∀ x ∈ done, x.call.isWork = true)
    (sends : Sends (done ++ rest) sent) :
    ∃ first second, sent = first ++ second ∧ List.Forall₂ Told done first ∧ Sends rest second := by
  induction done generalizing sent with
  | nil => exact ⟨[], sent, rfl, .nil, sends⟩
  | cons x done ih =>
      have own := isWork x List.mem_cons_self
      rw [List.cons_append] at sends
      cases sends with
      | dropped c reply second calls sent isEnd _ _ =>
          rw [(work_neither_reads_nor_ends c own).2] at isEnd
          cases isEnd
      | call c reply calls sent _ sends =>
          obtain ⟨first, second, rfl, told, after⟩ :=
            ih sent (fun y member => isWork y (List.mem_cons_of_mem _ member)) sends
          exact ⟨(wire c, reply) :: first, second, rfl, .cons (work_told c reply own) told, after⟩

theorem told_wire (done : List Exchange) (first : List (Sent × Reply)) (told : List.Forall₂ Told done first) :
    first.map Prod.fst = (done.map Exchange.call).map wire ∧
      ((∀ x ∈ done, x.isFavourable = true) → ∀ y ∈ first, wellAnswered y.1 y.2 = true) := by
  induction told with
  | nil => exact ⟨rfl, fun _ y member => by cases member⟩
  | cons here _ ih =>
      refine ⟨?_, ?_⟩
      · rw [List.map_cons, List.map_cons, List.map_cons, here.sent, ih.1]
      · intro fine y member
        rcases List.mem_cons.mp member with rfl | later
        · rw [here.favourable]
          exact fine _ List.mem_cons_self
        · exact ih.2 (fun x earlier => fine x (List.mem_cons_of_mem _ earlier)) y later

theorem received_frame (c : Call) (reply : Reply) (frame : c = .begin ∨ c.isEnd = true) :
    (received c reply).isOk = reply.doneOf.isOk := by
  have same : ∀ r : Decoded Unit, (r.mapError SqlError.toStoreError).isOk = r.isOk := fun r => by cases r <;> rfl
  cases c with
  | begin | commit | rollback => exact same reply.doneOf
  | getAccount id | listEntries id | getAccounts ids | createAccount account | debit id amount now
  | credit id amount now | append e =>
      rcases frame with impossible | impossible <;> cases impossible

theorem begin_sends (answer : Except StoreError Unit) (calls : List Exchange) (sent : List (Sent × Reply))
    (sends : Sends (⟨.begin, answer⟩ :: calls) sent) :
    ∃ reply rest, sent = (.begin, reply) :: rest ∧ wellAnswered .begin reply = answer.isOk ∧ Sends calls rest := by
  cases sends with
  | call _ reply _ rest _ sends => exact ⟨reply, rest, rfl, (received_frame .begin reply (.inl rfl)).symm, sends⟩
  | dropped _ _ _ _ _ isEnd _ _ => cases isEnd

theorem end_sends (c : Call) (answer : Except StoreError c.Reply) (sent : List (Sent × Reply)) (isEnd : c.isEnd = true)
    (sends : Sends [⟨c, answer⟩] sent) :
    ∃ reply tail, sent = (wire c, reply) :: tail ∧ Dropped reply tail ∧ reply.doneOf.isOk = answer.isOk := by
  cases sends with
  | call _ reply _ _ goesOn sends =>
      have told := received_frame c reply (.inr isEnd)
      cases sends
      rcases goesOn with impossible | fine
      · rw [isEnd] at impossible
        cases impossible
      · exact ⟨reply, [], rfl, by rw [Dropped, if_pos (told.symm.trans fine)], told.symm⟩
  | dropped _ reply second _ _ _ fails sends =>
      have told := received_frame c reply (.inr isEnd)
      cases sends
      refine ⟨reply, _, rfl, ?_, told.symm⟩
      rw [Dropped, if_neg (by rw [← told, fails]; exact Bool.false_ne_true)]
      exact ⟨second, rfl⟩

theorem transaction_sent (work : List Call) (isWork : ∀ c ∈ work, c.isWork = true) (trace : List Exchange)
    (success : Bool) (shape : Ledger.UnitTrace work trace success) (sent : List (Sent × Reply))
    (sends : Sends trace sent) : Transaction (work.map wire) sent success := by
  cases shape with
  | refused e =>
      obtain ⟨reply, rest, rfl, begun, sends⟩ := begin_sends _ _ sent sends
      cases sends
      exact .refused reply begun
  | abandoned done last rest reply calls fine unwanted =>
      obtain ⟨begun, after, rfl, opened, sends⟩ := begin_sends _ _ sent sends
      have lastWork : last.call.isWork = true := isWork _ (by rw [calls]; simp)
      have doneWork : ∀ x ∈ done, x.call.isWork = true := fun x member =>
        isWork _ (by rw [calls]; exact List.mem_append_left _ (List.mem_map_of_mem member))
      obtain ⟨front, middle, rfl, toldFront, sends⟩ := work_sends done [last, ⟨.rollback, reply⟩] after doneWork sends
      obtain ⟨back, second, rfl, toldBack, ending⟩ := work_sends [last] [⟨.rollback, reply⟩] middle
        (fun x member => by rw [List.mem_singleton.mp member]; exact lastWork) sends
      obtain ⟨replied, tail, rfl, dropped, _⟩ := end_sends .rollback reply second rfl ending
      obtain ⟨sentFront, well⟩ := told_wire done front toldFront
      cases toldBack with
      | cons toldLast none =>
          cases none
          refine .rolledBack begun front _ (rest.map wire) replied tail opened ?_ (well fine) ?_ dropped
          · rw [sentFront, toldLast.sent, calls, List.map_append, List.map_cons]
          · rw [toldLast.favourable, unwanted]
  | settled done reply calls fine =>
      obtain ⟨begun, after, rfl, opened, sends⟩ := begin_sends _ _ sent sends
      have inWork : ∀ x ∈ done, x.call.isWork = true := by
        intro x member
        apply isWork x.call
        rw [← calls]
        exact List.mem_map_of_mem member
      obtain ⟨first, second, rfl, told, ending⟩ := work_sends done [⟨.commit, reply⟩] after inWork sends
      obtain ⟨replied, tail, rfl, dropped, ended⟩ := end_sends .commit reply second rfl ending
      obtain ⟨whole, well⟩ := told_wire done first told
      rw [← ended]
      exact .committed begun first replied tail opened (by rw [whole, calls]) (well fine) dropped

-- A statement that gives a balance a value, whatever it was.
def Sent.setsBalance : Sent → Bool
  | query _ (.update _ assignments _) | execute _ (.update _ assignments _) => assignments.any fun a =>
    match a with
    | .set c _ => c == AccountColumn.balance
    | .increase _ _ | .decrease _ _ => false
  | _ => false

def Sent.params : Sent → List Param
  | query _ s | execute _ s => s.params
  | _ => []

-- A statement in which no number stands but an amount, and no balance but by way of it.
structure Plain (amount : Decimal) (x : Sent) : Prop where
  data : x.isData = true
  relative : x.setsBalance = false
  amounts : ∀ d, .decimal d ∈ x.params → d = amount ∨ d = amount.neg

structure OnTheWire (amount : Decimal) (statements : List Sent) (sent : List (Sent × Reply)) (success : Bool) :
    Prop where
  shape : Transaction statements sent success
  inOrder : (sent.map Prod.fst).filter Sent.isData <+: statements
  commits : (∃ reply, (.commit, reply) ∈ sent) ↔ ∃ begun done rest, sent = (.begin, begun) :: (done ++ rest) ∧
    wellAnswered .begin begun = true ∧ done.map Prod.fst = statements ∧ ∀ x ∈ done, wellAnswered x.1 x.2 = true
  settles : ∀ begun rest, sent = (.begin, begun) :: rest → wellAnswered .begin begun = true →
    ∃ x ∈ rest, x.1 = .commit ∨ x.1 = .rollback
  refused : ∀ begun rest, sent = (.begin, begun) :: rest → wellAnswered .begin begun = false → rest = []
  balances : ∀ x ∈ sent, x.1.setsBalance = false
  amounts : ∀ x ∈ sent, ∀ d, .decimal d ∈ x.1.params → d = amount ∨ d = amount.neg

theorem dropped_frame (reply : Reply) (tail : List (Sent × Reply)) (dropped : Dropped reply tail) (x : Sent × Reply)
    (member : x ∈ tail) : x.1 = .startRollback := by
  rw [Dropped] at dropped
  split at dropped
  · rw [dropped] at member
    cases member
  · obtain ⟨second, rfl⟩ := dropped
    rw [List.mem_singleton.mp member]

theorem frame_filtered (reply : Reply) (frame : Sent) (tail : List (Sent × Reply)) (dropped : Dropped reply tail)
    (noData : frame.isData = false) : (((frame, reply) :: tail).map Prod.fst).filter Sent.isData = [] := by
  apply List.filter_eq_nil_iff.mpr
  intro x member
  obtain ⟨y, inside, rfl⟩ := List.mem_map.mp member
  rcases List.mem_cons.mp inside with rfl | later
  · simp [noData]
  · simp [dropped_frame reply tail dropped y later, Sent.isData]

-- A transaction that has sent all its statements with success cannot have been rolled back.
theorem stopped_short (statements : List Sent) (done : List (Sent × Reply)) (last : Sent × Reply)
    (after rest front : List (Sent × Reply)) (remaining : List Sent)
    (split : statements = done.map Prod.fst ++ last.1 :: remaining) (same : done ++ last :: after = front ++ rest)
    (whole : front.map Prod.fst = statements) : last ∈ front := by
  have longer : done.length < front.length := by
    have lengths := congrArg List.length (whole.trans split)
    simp only [List.length_map, List.length_append, List.length_cons] at lengths
    omega
  have here : (done ++ last :: after)[done.length]? = some last := by simp
  rw [same, List.getElem?_append_left longer] at here
  exact List.mem_of_getElem? here

theorem transaction_members (statements : List Sent) (sent : List (Sent × Reply)) (success : Bool)
    (shape : Transaction statements sent success) (x : Sent × Reply) (member : x ∈ sent) :
    x.1 ∈ statements ∨ x.1 = .begin ∨ x.1 = .rollback ∨ x.1 = .startRollback ∨
      x.1 = .commit ∧ ∃ done : List (Sent × Reply), done.map Prod.fst = statements ∧
        ∃ begun rest, sent = (.begin, begun) :: (done ++ rest) ∧ wellAnswered .begin begun = true ∧
          ∀ y ∈ done, wellAnswered y.1 y.2 = true := by
  cases shape with
  | refused reply fails =>
      rw [List.mem_singleton.mp member]
      exact .inr (.inl rfl)
  | rolledBack begun done last remaining reply tail opened split fine unwanted dropped =>
      simp only [List.mem_cons, List.mem_append] at member
      rcases member with rfl | inside | rfl | rfl | later
      · exact .inr (.inl rfl)
      · refine .inl ?_
        rw [split]
        exact List.mem_append_left _ (List.mem_map_of_mem inside)
      · refine .inl ?_
        rw [split]
        simp
      · exact .inr (.inr (.inl rfl))
      · exact .inr (.inr (.inr (.inl (dropped_frame reply tail dropped x later))))
  | committed begun done reply tail opened whole fine dropped =>
      simp only [List.mem_cons, List.mem_append] at member
      rcases member with rfl | inside | rfl | later
      · exact .inr (.inl rfl)
      · refine .inl ?_
        rw [← whole]
        exact List.mem_map_of_mem inside
      · exact .inr (.inr (.inr (.inr ⟨rfl, done, whole, begun, _, rfl, opened, fine⟩)))
      · exact .inr (.inr (.inr (.inl (dropped_frame reply tail dropped x later))))

theorem transaction_in_order (statements : List Sent) (sent : List (Sent × Reply)) (success : Bool)
    (data : ∀ x ∈ statements, x.isData = true) (shape : Transaction statements sent success) :
    (sent.map Prod.fst).filter Sent.isData <+: statements := by
  have kept : ∀ front rest, statements = front ++ rest → front.filter Sent.isData = front := by
    rintro front rest rfl
    exact List.filter_eq_self.mpr fun x member => data x (List.mem_append_left _ member)
  cases shape with
  | refused reply fails => exact List.nil_prefix
  | rolledBack begun done last remaining reply tail opened split fine unwanted dropped =>
      refine ⟨remaining, ?_⟩
      have lastData : last.1.isData = true := data _ (by rw [split]; simp)
      rw [List.map_cons, List.filter_cons_of_neg Bool.false_ne_true, List.map_append, List.filter_append,
        kept _ _ split, List.map_cons, List.filter_cons_of_pos lastData,
        frame_filtered reply .rollback tail dropped rfl, split, List.append_assoc, List.singleton_append]
  | committed begun done reply tail opened whole fine dropped =>
      refine ⟨[], ?_⟩
      rw [List.append_nil, List.map_cons, List.filter_cons_of_neg Bool.false_ne_true, List.map_append,
        List.filter_append, frame_filtered reply .commit tail dropped rfl, whole,
        kept statements [] (List.append_nil _).symm, List.append_nil]

theorem commits_iff (statements : List Sent) (sent : List (Sent × Reply)) (success : Bool)
    (data : ∀ x ∈ statements, x.isData = true) (shape : Transaction statements sent success) :
    (∃ reply, (.commit, reply) ∈ sent) ↔ ∃ begun done rest, sent = (.begin, begun) :: (done ++ rest) ∧
      wellAnswered .begin begun = true ∧ done.map Prod.fst = statements ∧ ∀ x ∈ done, wellAnswered x.1 x.2 = true := by
  constructor
  · rintro ⟨reply, member⟩
    rcases transaction_members statements sent success shape _ member with
      inside | frame | frame | frame | ⟨_, done, whole, begun, rest, same, opened, fine⟩
    · cases data _ inside
    · cases frame
    · cases frame
    · cases frame
    · exact ⟨begun, done, rest, same, opened, whole, fine⟩
  · rintro ⟨begun, front, rest, same, opened, whole, well⟩
    cases shape with
    | refused reply fails =>
        cases (List.cons.inj same).1
        rw [fails] at opened
        cases opened
    | rolledBack other done last remaining reply tail _ split fine unwanted dropped =>
        have inside := stopped_short statements done last _ rest front remaining split (List.cons.inj same).2 whole
        rw [well last inside] at unwanted
        cases unwanted
    | committed other done reply tail _ _ _ dropped => exact ⟨reply, by simp⟩

theorem begin_decides (statements : List Sent) (sent : List (Sent × Reply)) (success : Bool)
    (shape : Transaction statements sent success) (begun : Reply) (rest : List (Sent × Reply))
    (same : sent = (.begin, begun) :: rest) :
    (wellAnswered .begin begun = true → ∃ x ∈ rest, x.1 = .commit ∨ x.1 = .rollback) ∧
      (wellAnswered .begin begun = false → rest = []) := by
  cases shape with
  | refused reply fails =>
      cases same
      refine ⟨fun opened => ?_, fun _ => rfl⟩
      rw [fails] at opened
      cases opened
  | rolledBack other done last remaining reply tail opened split fine unwanted dropped =>
      obtain ⟨first, rfl⟩ := List.cons.inj same
      cases first
      refine ⟨fun _ => ⟨(.rollback, reply), by simp, .inr rfl⟩, fun closed => ?_⟩
      rw [opened] at closed
      cases closed
  | committed other done reply tail opened whole fine dropped =>
      obtain ⟨first, rfl⟩ := List.cons.inj same
      cases first
      refine ⟨fun _ => ⟨(.commit, reply), by simp, .inl rfl⟩, fun closed => ?_⟩
      rw [opened] at closed
      cases closed

theorem on_the_wire (amount : Decimal) (statements : List Sent) (sent : List (Sent × Reply)) (success : Bool)
    (plain : ∀ x ∈ statements, Plain amount x) (shape : Transaction statements sent success) :
    OnTheWire amount statements sent success := by
  have members := transaction_members statements sent success shape
  have data : ∀ x ∈ statements, x.isData = true := fun x member => (plain x member).data
  have decided := begin_decides statements sent success shape
  refine ⟨shape, transaction_in_order statements sent success data shape, commits_iff statements sent success data shape,
    fun begun rest same => (decided begun rest same).1, fun begun rest same => (decided begun rest same).2, ?_, ?_⟩
  · intro x member
    rcases members x member with inside | frame | frame | frame | ⟨frame, _⟩
    · exact (plain x.1 inside).relative
    all_goals rw [frame]; rfl
  · intro x member d sentHere
    rcases members x member with inside | frame | frame | frame | ⟨frame, _⟩
    · exact (plain x.1 inside).amounts d sentHere
    all_goals rw [frame] at sentHere; cases sentHere

theorem account_plain (input : NewAccount) (now : Stamp) :
    ∀ x ∈ accountStatements input now, Plain (Amount.round input.initialBalance) x := by
  intro x member
  simp only [accountStatements, List.mem_cons, List.not_mem_nil, or_false] at member
  rcases member with rfl | rfl
  all_goals
    refine ⟨rfl, rfl, fun d sent => .inl ?_⟩
    simpa [Sent.params, Statement.params] using sent

theorem transfer_plain (input : Transfer) (now : Stamp) :
    ∀ x ∈ transferStatements input now, Plain (Amount.round input.amount) x := by
  intro x member
  simp only [transferStatements, List.mem_cons, List.not_mem_nil, or_false] at member
  rcases member with rfl | rfl | rfl | rfl | rfl
  · refine ⟨rfl, rfl, fun d sent => ?_⟩
    simp [Sent.params, Statement.params, Statement.conditionParams, Condition.params] at sent
  · refine ⟨rfl, by simp [Sent.setsBalance, AccountColumn.modified, AccountColumn.balance], fun d sent => .inl ?_⟩
    simpa [Sent.params, Statement.params, Statement.conditionParams, Condition.params, Assignment.param] using sent
  · refine ⟨rfl, by simp [Sent.setsBalance, AccountColumn.modified, AccountColumn.balance], fun d sent => .inl ?_⟩
    simpa [Sent.params, Statement.params, Statement.conditionParams, Condition.params, Assignment.param] using sent
  · refine ⟨rfl, rfl, fun d sent => .inr ?_⟩
    simpa [Sent.params, Statement.params] using sent
  · refine ⟨rfl, rfl, fun d sent => .inl ?_⟩
    simpa [Sent.params, Statement.params] using sent

section Operations

variable {σ α : Type} (server : Server σ)

-- How an operation is carried out over a link: nothing is sent for an input that does not pass the checks.
def Transacted (rejection? : Option LedgerError) (amount : Decimal) (statements : Stamp → List Sent) (link : Link σ)
    (played : Played (Link σ) (Result α)) : Prop :=
  match rejection? with
  | some e => played.answer = .error e ∧ played.state = link
  | none => ∃ now sent, played.state.exchanges = link.exchanges ++ sent ∧
      OnTheWire amount (statements now) sent played.answer.isOk

theorem carried_transacted (rejection? : Option LedgerError) (amount : Decimal) (work : Stamp → List Call)
    (statements : Stamp → List Sent) (isWork : ∀ now, ∀ c ∈ work now, c.isWork = true)
    (same : ∀ now, (work now).map wire = statements now)
    (plain : ∀ now, ∀ x ∈ statements now, Plain amount x) (p : Program (Result α))
    (link : Link σ) (carried : Ledger.CarriedOut rejection? work link (p.play (Link.store server) link)) :
    Transacted rejection? amount statements link (p.play (Link.store server) link) := by
  unfold Ledger.CarriedOut at carried
  unfold Transacted
  cases rejection? with
  | some e =>
      simp only at carried ⊢
      rw [carried]
      exact ⟨rfl, rfl⟩
  | none =>
      obtain ⟨now, keeps⟩ := carried
      obtain ⟨sent, exchanges, sends⟩ := play_sends server p link
      refine ⟨now, sent, exchanges, on_the_wire amount _ _ _ (plain now) ?_⟩
      rw [← same now]
      exact transaction_sent (work now) (isWork now) _ _ keeps.shape sent sends

/-- Both operations that change accounts send one transaction over any link. -/
theorem operations_are_transactions (link : Link σ) :
    (∀ input, Transacted (Operation.createAccount input).rejection? (Amount.round input.initialBalance)
      (accountStatements input) link ((Ledger.createAccount none input).body.play (Link.store server) link)) ∧
    ∀ input, Transacted (Operation.createTransfer input).rejection? (Amount.round input.amount)
      (transferStatements input) link ((Ledger.createTransfer none input).body.play (Link.store server) link) := by
  constructor
  · intro input
    refine carried_transacted server _ _ (Ledger.accountWork input) _ ?_ (account_work_wire input) ?_ _ link
      (Ledger.create_account_protocol _ input link)
    · simp [Ledger.accountWork, Call.isWork]
    · exact account_plain input
  · intro input
    refine carried_transacted server _ _ (Ledger.transferWork input) _ ?_ (transfer_work_wire input) ?_ _ link
      (Ledger.create_transfer_protocol _ input link)
    · simp [Ledger.transferWork, Call.isWork]
    · exact transfer_plain input

end Operations

end DoubleEntry.Sql
