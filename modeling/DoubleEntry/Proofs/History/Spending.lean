import DoubleEntry.Proofs.Decimal.Text
import DoubleEntry.Proofs.History.Growth
import DoubleEntry.Proofs.History.Rejections
import DoubleEntry.Proofs.History.Verdict
import DoubleEntry.Proofs.Http.Transfers
import DoubleEntry.Proofs.Ledger.Spending

/-!
What clients read of an account they can spend, to the last digit. The texts of its entries add up to the text of its
balance; a transfer with that text as its amount leaves nothing of it; and no amount that is not more than the balance
is ever too much.
-/

set_option autoImplicit false

namespace DoubleEntry

open Http (Request Response TransferRequest BalanceBody EntryBody EntriesBody amountText decorate responseTo)
open Ledger (Operation Outcome)
open Session (Answer)
open Time (Stamp)

def Http.Request.Yields (r : Request) (limit : Option Nat) (s : Store) (more : Nat) (x : Response) (after : Store) : Prop :=
  ∃ time, (Demand.request r).executed limit s more = (some [(.response x, time)], after)

-- Whoever asks for the balance of an account is shown this text.
def Store.Shows (s : Store) (id : AccountId) (text : String) : Prop :=
  ∀ (r : Request) (limit : Option Nat) (more : Nat), r.Gets .balance id → ∃ x after, r.Yields limit s more x after ∧
    after.committed = s.committed ∧ x.status = 200 ∧ BalanceBody.decode? x.body = some ⟨toString id, text⟩

-- Whoever asks for its entries is shown these amounts. Entries are numbered in words of 64 bits.
def Store.Lists (s : Store) (id : AccountId) (texts : List String) : Prop :=
  ∀ (r : Request) (limit : Option Nat) (more : Nat), r.Gets .entries id → ∃ x after, r.Yields limit s more x after ∧
    after.committed = s.committed ∧ x.status = 200 ∧ ∃ entries, x.body = EntriesBody.toJson ⟨toString id, entries⟩ ∧
      entries.map EntryBody.amount = texts ∧
        (s.committed.entries.length < 2 ^ 63 → EntriesBody.decode? x.body = some ⟨toString id, entries⟩)

structure Spendable (s : Store) : Prop where
  reads : ∀ id a, s.committed.account? id = some a → ∃ texts balance amounts,
    s.Shows id (amountText a.balance) ∧ s.Lists id texts ∧ Amount.parse (amountText a.balance) = .ok balance ∧
      texts.mapM Amount.parse = .ok amounts ∧ (amounts.map Decimal.value).sum = balance.value ∧
        balance.value = a.balance.value
  spends : s.control.faults = [] → ∀ source destination, source ≠ destination →
    ∀ a b, s.committed.account? source = some a → s.committed.account? destination = some b →
      a.balance.value + b.balance.value < 10 ^ 23 →
        ∀ (r : Request) (more : Nat), r.Transfers ⟨some source, some destination, some (amountText a.balance)⟩ →
          ∃ x after text sum, r.Yields none s more x after ∧ x.status = 201 ∧ after.Shows source "0" ∧
            after.Shows destination text ∧ Amount.parse text = .ok sum ∧ sum.value = a.balance.value + b.balance.value
  spares : ∀ source a, s.committed.account? source = some a → ∀ (r : Request) (b : TransferRequest), r.Transfers b →
    b.source = some source → ∀ text amount, b.amount = some text → Amount.parse text = .ok amount →
      amount.value ≤ a.balance.value → ∀ limit more, ∃ x after, r.Yields limit s more x after ∧ ¬ x.IsShort

section Reading

variable (s : Store) (idle : s.owner = none ∧ s.queue = [])

include idle

theorem read_yields (r : Request) (limit : Option Nat) (more : Nat) (o : Operation) (asks : Http.operation? r = some o)
    (read : o.isRead = true) (outcome : Outcome)
    (reads : ∀ now, (o.task none).body.solo now none s.committed = .ok (outcome, s.committed)) :
    ∃ after, r.Yields limit s more (decorate r (responseTo o outcome)) after ∧ after.committed = s.committed := by
  have orderly := task_orderly_mono _ (fun _ => False) (by simp [Demand.isWrite, Demand.operation?, asks, read]) _
    (demand_orderly (.request r) limit)
  have within : ((Demand.operation o).task limit).body.Within 7 :=
    Ledger.within_closing 7 _ _ Answer.outcome (Ledger.operation_within limit o) fun _ => .done _
  have alone : ∀ now, ((Demand.request r).task limit).body.solo now none s.committed =
      .ok (.response (decorate r (responseTo o outcome)), s.committed) := by
    intro now
    rw [demand_body, demand_solo (.request r) now s.committed o asks, reads]
    rfl
  obtain ⟨time, after, ran, kept⟩ := lone_answer Answer.refused _ 7 more s orderly _ alone idle
    (Program.mirrors_within _ 7 _ _ (Http.request_mirrors limit r o asks).body within) (by decide)
  exact ⟨after, ⟨time, ran⟩, kept⟩

theorem shows_balance (id : AccountId) (a : Account) (found : s.committed.account? id = some a) :
    s.Shows id (amountText a.balance) := by
  intro r limit more gets
  obtain ⟨after, yields, kept⟩ := read_yields s idle r limit more _ (Http.gets_balance r id gets) rfl _
    fun now => Ledger.get_balance_solo now s.committed id
  refine ⟨_, after, yields, kept, ?_⟩
  have own := Book.account_id _ id a found
  have body : (decorate r (Response.json 200 (BalanceBody.ofAccount a).toJson)).body = (BalanceBody.ofAccount a).toJson := by
    simp [decorate, gets.get, Response.json]
  rw [Ledger.balanceIn, found]
  refine ⟨rfl, ?_⟩
  change BalanceBody.decode? (decorate r (Response.json 200 (BalanceBody.ofAccount a).toJson)).body = _
  rw [body, Http.balance_body_decoded, BalanceBody.ofAccount, own]

theorem lists_entries (order : s.committed.InOrder) (id : AccountId) (a : Account)
    (found : s.committed.account? id = some a) :
    s.Lists id ((s.committed.entriesOf id).map fun e => amountText e.amount) := by
  intro r limit more gets
  obtain ⟨after, yields, kept⟩ := read_yields s idle r limit more _ (Http.gets_entries r id gets) rfl _
    fun now => Ledger.list_entries_solo now s.committed id
  refine ⟨_, after, yields, kept, ?_⟩
  rw [Ledger.entriesIn, found]
  have body : (decorate r (Http.entriesResponse id (s.committed.entriesOf id))).body =
      (EntriesBody.ofEntries id (s.committed.entriesOf id)).toJson := by
    simp [decorate, gets.get, Http.entriesResponse, Response.json]
  refine ⟨rfl, _, body, by rw [List.map_map]; rfl, ?_⟩
  intro few
  change EntriesBody.decode? (decorate r (Http.entriesResponse id (s.committed.entriesOf id))).body = _
  rw [body, Http.entries_body_decoded]
  · rfl
  · intro shown among
    obtain ⟨e, member, rfl⟩ := List.mem_map.mp among
    obtain ⟨first, last⟩ := Book.entry_number s.committed order e (List.mem_of_mem_filter member)
    have word : (twoTo 63 : Nat) = 2 ^ 63 := rfl
    have low : -(twoTo 63 : Int) ≤ e.id := by omega
    have high : e.id < (twoTo 63 : Int) := by omega
    exact Bool.and_eq_true_iff.mpr ⟨decide_eq_true low, decide_eq_true high⟩

end Reading

theorem amounts_read (entries : List Entry) : ∃ amounts,
    (entries.map fun e => amountText e.amount).mapM Amount.parse = .ok amounts ∧
      (amounts.map Decimal.value).sum = total entries := by
  induction entries with
  | nil => exact ⟨[], rfl, rfl⟩
  | cons e entries ih =>
      obtain ⟨amounts, read, sum⟩ := ih
      obtain ⟨d, own, value⟩ := Http.amount_text_read e.amount
      refine ⟨d :: amounts, ?_, ?_⟩
      · simp only [List.map_cons, List.mapM_cons, own, read]
        rfl
      · rw [List.map_cons, List.sum_cons, value, sum]
        rfl

section Spending

variable (s : Store) (idle : s.owner = none ∧ s.queue = []) (balanced : s.committed.Balanced)

include idle balanced

theorem store_read (order : s.committed.InOrder) (id : AccountId) (a : Account)
    (found : s.committed.account? id = some a) : ∃ texts balance amounts,
    s.Shows id (amountText a.balance) ∧ s.Lists id texts ∧ Amount.parse (amountText a.balance) = .ok balance ∧
      texts.mapM Amount.parse = .ok amounts ∧ (amounts.map Decimal.value).sum = balance.value ∧
        balance.value = a.balance.value := by
  obtain ⟨balance, read, value⟩ := Http.amount_text_read a.balance
  obtain ⟨amounts, listed, sum⟩ := amounts_read (s.committed.entriesOf id)
  refine ⟨_, balance, amounts, shows_balance s idle id a found, lists_entries s idle order id a found, read, listed, ?_,
    value⟩
  rw [sum, value, balanced.balance a (Book.account_mem _ id a found), Book.account_id _ id a found]

theorem transfer_yields (r : Request) (limit : Option Nat) (more : Nat) (t : Transfer)
    (asks : Http.operation? r = some (.createTransfer t)) : ∃ outcome later after,
    Ledger.Decided (Ledger.transferChecks s.control s.committed t) s.clock s.committed t outcome later ∧
      ((r.Yields limit s more (decorate r (responseTo (.createTransfer t) outcome)) after ∧ after.committed = later ∧
          after.owner = none ∧ after.queue = []) ∨
        limit ≠ none ∧ r.Yields limit s more
          (decorate r (responseTo (.createTransfer t) (.transfer (.error (.timeout "create transfer"))))) after) := by
  have tidy := Book.balanced_tidy _ balanced
  obtain ⟨x, worked, decided⟩ := Ledger.transfer_trial s.control s.clock s.committed t tidy s.log
  rcases executed_in_time (.createTransfer t) rfl limit s more idle x worked with
    ⟨time, log, ran⟩ | ⟨limited, time, log, ran⟩
  · obtain ⟨lines, told⟩ := Http.retold_request limit s more r _ asks _ time _ ran
    exact ⟨x.answer, x.book, _, decided, .inl ⟨⟨time, told⟩, rfl, idle⟩⟩
  · obtain ⟨lines, told⟩ := Http.retold_request limit s more r _ asks _ time _ ran
    exact ⟨x.answer, x.book, _, decided, .inr ⟨limited, time, told⟩⟩

theorem whole_balance_spent (calm : s.control.faults = []) (source destination : AccountId)
    (different : source ≠ destination) (a b : Account) (found : s.committed.account? source = some a)
    (other : s.committed.account? destination = some b) (room : a.balance.value + b.balance.value < 10 ^ 23)
    (r : Request) (more : Nat) (asks : r.Transfers ⟨some source, some destination, some (amountText a.balance)⟩) :
    ∃ x after text sum, r.Yields none s more x after ∧ x.status = 201 ∧ after.Shows source "0" ∧
      after.Shows destination text ∧ Amount.parse text = .ok sum ∧ sum.value = a.balance.value + b.balance.value := by
  obtain ⟨money, nonneg⟩ := Book.balanced_money _ balanced a (Book.account_mem _ source a found)
  obtain ⟨d, read, value⟩ := Http.amount_text_read a.balance
  have whole := Book.round_whole d a money nonneg value
  let t : Transfer := ⟨source, destination, d⟩
  have positive : 1 ≤ t.source ∧ 1 ≤ t.destination :=
    ⟨Book.balanced_positive _ balanced source a found, Book.balanced_positive _ balanced destination b other⟩
  have checked : TransferRequest.check ⟨some source, some destination, some (amountText a.balance)⟩ = .ok t :=
    Http.fields_check t _ positive read
  have passes := Ledger.whole_passes s.control s.committed t calm different (by rw [value]; exact nonneg) a b found other
    (le_of_eq whole) (by rw [whole, add_comm]; exact room)
  obtain ⟨outcome, later, after, decided, ⟨yields, committed, free⟩ | ⟨limited, _⟩⟩ :=
    transfer_yields s idle balanced r none more t (Http.transfers_operation r _ asks t checked)
  · have moved := decided.moved passes
    obtain ⟨spent, foundSpent, nothing, _⟩ := Book.moved_account _ later t s.clock moved a source found
    obtain ⟨raised, foundRaised, _, sum⟩ := Book.moved_account _ later t s.clock moved b destination other
    rw [← committed] at foundSpent foundRaised
    have zero := shows_balance after free source spent foundSpent
    rw [Http.amount_text_zero _ (by rw [nothing rfl, whole, sub_self])] at zero
    obtain ⟨all, readAll, valueAll⟩ := Http.amount_text_read raised.balance
    refine ⟨_, after, _, all, yields, ?_, zero, shows_balance after free destination raised foundRaised, readAll, ?_⟩
    · rw [decided.told, passes]
      rfl
    · rw [valueAll, sum rfl (Ne.symm different), whole, add_comm]
  · exact absurd rfl limited

omit balanced in
theorem closed_yields (r : Request) (limit : Option Nat) (more : Nat) (p : Program Response) (x : Response)
    (handled : Http.handle limit r = .unlimited p) (closes : p.Closes x) :
    ∃ after, r.Yields limit s more x after := by
  have ends : (p.bind fun x => .done (Answer.response x)).Closes (.response x) := Program.closes_bind p _ x _ closes (.done _)
  have task : (Demand.request r).task limit = .unlimited (p.bind fun x => .done (Answer.response x)) := by
    rw [Demand.task, handled]
    rfl
  obtain ⟨time, after, ran, _⟩ := lone_answer Answer.refused _ 7 more s (Ledger.unlimited_orderly _ _ (.closes _ _ ends)) _
    (fun now => Program.solo_closes now _ _ none _ ends) idle
    (Program.within_mono 0 7 _ (by decide) (Program.within_closes _ _ ends)) (by decide)
  rw [← task] at ran
  exact ⟨after, time, ran⟩

theorem covered_amount_spared (source : AccountId) (a : Account) (found : s.committed.account? source = some a)
    (r : Request) (b : TransferRequest) (asks : r.Transfers b) (own : b.source = some source) (text : String)
    (amount : Decimal) (written : b.amount = some text) (read : Amount.parse text = .ok amount)
    (covered : amount.value ≤ a.balance.value) (limit : Option Nat) (more : Nat) :
    ∃ x after, r.Yields limit s more x after ∧ ¬ x.IsShort := by
  cases checked : b.check with
  | error e =>
      have problem := Http.transfers_problem r b asks e checked
      obtain ⟨p, handled, closes⟩ := Http.problem_handled limit r _ problem
      obtain ⟨after, yields⟩ := closed_yields s idle r limit more p _ handled closes
      refine ⟨_, after, yields, fun short => ?_⟩
      exact Http.Response.rejection_not_short _ (Http.problem_rejection r _ problem) (Http.decorate_short r _ short)
  | ok t =>
      obtain ⟨rfl, rfl⟩ := Http.check_paid b t checked source text amount own written read
      obtain ⟨outcome, later, after, decided, ⟨yields, _⟩ | ⟨_, yields⟩⟩ :=
        transfer_yields s idle balanced r limit more t (Http.transfers_operation r b asks t checked)
      · refine ⟨_, after, yields, fun short => ?_⟩
        obtain ⟨id, failed⟩ := Http.told_short r (.createTransfer t) rfl outcome short
        exact Ledger.covered_not_short s.control s.committed t (Book.balanced_tidy _ balanced) a found covered s.clock
          outcome later decided id failed
      · refine ⟨_, after, yields, fun short => ?_⟩
        obtain ⟨id, failed⟩ := Http.told_short r (.createTransfer t) rfl _ short
        cases failed

theorem store_spendable (order : s.committed.InOrder) : Spendable s :=
  ⟨store_read s idle balanced order, whole_balance_spent s idle balanced, covered_amount_spared s idle balanced⟩

end Spending

namespace History

-- A record that does not tell of too little, if it is one of a transfer that is covered.
def SparesCovered (book : Book) (record : Record) : Prop :=
  ∀ (r : Request) (b : TransferRequest), record.demand = .request r → r.Transfers b →
    ∀ source a, b.source = some source → book.account? source = some a →
      ∀ text amount, b.amount = some text → Amount.parse text = .ok amount → amount.value ≤ a.balance.value →
        ∀ x, record.answer = .response x → ¬ x.IsShort

section Records

variable (events : List Event) (record : Record) (member : record ∈ (run Store.empty events).records)

include member

theorem record_tells (r : Request) (demand : record.demand = .request r) (o : Operation)
    (asks : Http.operation? r = some o) (x : Response) (answer : record.answer = .response x) :
    ∃ outcome, x = decorate r (responseTo o outcome) := by
  exact request_always r (fun x => ∃ outcome, x = decorate r (responseTo o outcome))
    (fun limit => Http.handle_tells limit r o asks) Store.empty events record member demand x answer

theorem record_spares : SparesCovered (storeAt Store.empty events record.ended).committed record := by
  intro r b demand asks source a own found text amount written read covered x answer short
  cases checked : b.check with
  | error e =>
      have judged := request_judged r
      rw [Http.transfers_problem r b asks e checked] at judged
      have told := judged.2.everywhere Store.empty events record member demand
      rw [answer] at told
      cases told
      exact Http.Response.rejection_not_short _ judged.1 (Http.decorate_short r _ short)
  | ok t =>
      obtain ⟨rfl, rfl⟩ := Http.check_paid b t checked source text amount own written read
      have operation := Http.transfers_operation r b asks t checked
      obtain ⟨told, rfl⟩ := record_tells events record member r demand _ operation x answer
      obtain ⟨id, failed⟩ := Http.told_short r _ rfl told short
      have fine : record.isTroubled = false := by
        have conflict : (decorate r (responseTo (.createTransfer t) told)).status = 409 := by
          rw [Http.failed_response _ told _ failed]
          rfl
        simp [Record.isTroubled, Answer.isTrouble, answer, conflict]
      obtain ⟨now, alone⟩ := answered_alone Store.empty events record member fine
      rw [demand, demand_solo (.request r) now _ _ operation, answer] at alone
      cases solo : ((Operation.createTransfer t).task none).body.solo now none
          (storeAt Store.empty events record.ended).committed with
      | error e =>
          rw [solo] at alone
          cases alone
      | ok done =>
          rw [solo] at alone
          have same :
              decorate r (responseTo (.createTransfer t) done.1) = decorate r (responseTo (.createTransfer t) told) :=
            Answer.response.inj (congrArg Prod.fst (Except.ok.inj alone))
          rw [← same] at short
          obtain ⟨id, failed⟩ := Http.told_short r _ rfl done.1 short
          exact Ledger.solo_not_short _ t (Book.balanced_tidy _ (books_always_balance events record.ended)) a found covered
            now done.1 done.2 solo id failed

end Records
end History

/-- Whatever clients read they can spend, to the last digit: on the books of any history, with any faults, latency and
deadline unless they are excluded. No request in a history, whatever else goes on there, is told that there is too little
for an amount that is covered by what was committed before the turn of its answer. -/
theorem what_is_read_can_be_spent (events : List Event) (control : Control) (now : Nat) (clock : Stamp) :
    Spendable { Store.resting clock (History.books Store.empty events) with control, now } ∧
    (∀ record ∈ (History.run Store.empty events).records,
      History.SparesCovered (History.storeAt Store.empty events record.ended).committed record) ∧
    ∀ r : Request, Http.PlainlyAsked r := by
  have balanced := History.run_balanced Store.empty events Book.empty_balanced
  have order := History.run_in_order Store.empty events Book.empty_in_order
  exact ⟨store_spendable _ ⟨rfl, rfl⟩ balanced order, History.record_spares events, Http.plainly_asked⟩

-- All of one account is paid to another, by the plain request, in a store whose calls take their time.
theorem ten_and_a_half_spent :
    let ten : Decimal := ⟨false, 1050000, 5, by decide, by decide⟩
    let opened : List Event := [.ask none (.operation (.createAccount ⟨1, ten⟩)), .poll 0,
      .ask none (.operation (.createAccount ⟨2, .zero⟩)), .poll 1]
    let s : Store := { Store.resting (.tick 0) (History.books Store.empty opened) with control := ⟨[], 3⟩, now := 5 }
    let payment : Request := ⟨"POST", "/transactions", [("content-type", "application/json")],
      Text.encode (Http.transferJson 1 2 "10.5")⟩
    s.Shows 1 "10.5" ∧ ∃ x after, payment.Yields none s 0 x after ∧ x.status = 201 ∧ after.Shows 1 "0" := by
  intro ten opened s payment
  obtain ⟨spendable, _, plain⟩ := what_is_read_can_be_spent opened ⟨[], 3⟩ 5 (.tick 0)
  have found : s.committed.account? 1 = some ⟨1, ten, Store.empty.clock, Store.empty.clock⟩ := by decide +kernel
  have other : s.committed.account? 2 = some ⟨2, Amount.round .zero, Store.empty.clock, Store.empty.clock⟩ := by
    decide +kernel
  have text : amountText ten = "10.5" := by decide +kernel
  have room : ten.value + (Amount.round .zero).value < 10 ^ 23 := by
    rw [Decimal.value_of_zero (Amount.round .zero) (by decide)]
    norm_num [Decimal.value, Decimal.signed, ten]
  have pays : payment.Pays 1 2 "10.5" := ⟨rfl, rfl, by decide +kernel, by decide +kernel, by decide, rfl⟩
  obtain ⟨_, _, _, shown, _⟩ := spendable.reads 1 _ found
  have asks := (plain payment).transfers 1 2 "10.5" pays
  rw [← text] at asks
  obtain ⟨x, after, _, _, yields, created, nothing, _⟩ :=
    spendable.spends rfl 1 2 (by decide) _ _ found other room payment 0 asks
  rw [text] at shown
  exact ⟨shown, x, after, yields, created, nothing⟩

end DoubleEntry
