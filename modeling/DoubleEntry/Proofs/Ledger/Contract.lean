import DoubleEntry.Proofs.Ledger.Ideal
import DoubleEntry.Proofs.Ledger.Posting
import DoubleEntry.Proofs.Ledger.Protocol

/-!
What the ledger relies on in a store, and what it comes to on any store that keeps to it: each operation answers as
on positions, and leads to the position that it has there.
-/

set_option autoImplicit false

namespace DoubleEntry

open Ledger (Operation Outcome Result)
open Time (Stamp)

-- What a store can take down, given the ids that it can write and the times that it shows.
structure Writable (takes : AccountId → Prop) (shows : Stamp → Prop) (id : AccountId) (amount : Decimal)
    (now : Stamp) : Prop where
  id : takes id
  money : amount.IsMoney
  time : shows now

structure Payable (takes : AccountId → Prop) (shows : Stamp → Prop) (id : AccountId) (amount : Decimal)
    (now : Stamp) : Prop extends Writable takes shows id amount now where
  nonneg : 0 ≤ amount.value

/-- A store that holds positions. A unit of work starts from one and comes to others, as long as nothing fails. -/
structure Contract {σ : Type} (store : AnyStore σ) where
  rests : Position → σ → Prop
  works : Position → Option Position → σ → Prop
  takes : AccountId → Prop
  shows : Stamp → Prop
  begins : ∀ p s, rests p s →
    (store.answer s .begin).1 = .ok () ∧ works p (some p) (store.answer s .begin).2
  commits : ∀ p q s, works p (some q) s →
    (store.answer s .commit).1 = .ok () ∧ rests q (store.answer s .commit).2
  rollsBack : ∀ p q s, works p q s → rests p (store.answer s .rollback).2
  clock : ∀ p q s, works p q s → shows (store.clock s).1 ∧ works p q (store.clock s).2
  finds : ∀ p s id, takes id → rests p s → ∃ found : Option Account,
    (store.answer s (.getAccount id)).1 = .ok found ∧ found.map (fun a => (a.id, a.balance.value)) =
      (p.balance id).map (fun q => (id, q)) ∧ rests p (store.answer s (.getAccount id)).2
  lists : ∀ p s id, takes id → rests p s → ∃ entries : List Entry,
    (store.answer s (.listEntries id)).1 = .ok entries ∧ entries.map (fun e => e.amount.value) = p.entries id ∧
      rests p (store.answer s (.listEntries id)).2
  counts : ∀ p q s a b, takes a → takes b → a ≠ b → works p (some q) s → ∃ found : List Account,
    (store.answer s (.getAccounts [a, b])).1 = .ok found ∧
      (found.length < 2 ↔ q.balance a = none ∨ q.balance b = none) ∧
      works p (some q) (store.answer s (.getAccounts [a, b])).2
  refuses : ∀ p q s id balance now, Payable takes shows id balance now → works p (some q) s → id < 1 →
    (∃ detail, (store.answer s (.createAccount ⟨id, balance, now, now⟩)).1 = .error (.backend detail)) ∧
      works p none (store.answer s (.createAccount ⟨id, balance, now, now⟩)).2
  repeats : ∀ p q s id balance now held, Payable takes shows id balance now → works p (some q) s → ¬ id < 1 →
    q.balance id = some held →
    (∃ detail, (store.answer s (.createAccount ⟨id, balance, now, now⟩)).1 = .error (.duplicateKey detail)) ∧
      works p none (store.answer s (.createAccount ⟨id, balance, now, now⟩)).2
  creates : ∀ p q s id balance now, Payable takes shows id balance now → works p (some q) s → ¬ id < 1 →
    q.balance id = none →
    (∃ made : Account, (store.answer s (.createAccount ⟨id, balance, now, now⟩)).1 = .ok made ∧ made.id = id ∧
      made.balance.value = balance.value) ∧
      works p (some (q.put id balance.value)) (store.answer s (.createAccount ⟨id, balance, now, now⟩)).2
  spares : ∀ p q s id amount now held, Payable takes shows id amount now → works p (some q) s →
    q.balance id = some held → held < amount.value →
    (store.answer s (.debit id amount now)).1 = .ok 0 ∧ works p (some q) (store.answer s (.debit id amount now)).2
  debits : ∀ p q s id amount now held, Payable takes shows id amount now → works p (some q) s →
    q.balance id = some held → ¬ held < amount.value →
    (store.answer s (.debit id amount now)).1 = .ok 1 ∧
      works p (some (q.put id (held - amount.value))) (store.answer s (.debit id amount now)).2
  credits : ∀ p q s id amount now held, Payable takes shows id amount now → works p (some q) s →
    q.balance id = some held → held + amount.value < 10 ^ 23 →
    (store.answer s (.credit id amount now)).1 = .ok 1 ∧
      works p (some (q.put id (held + amount.value))) (store.answer s (.credit id amount now)).2
  appends : ∀ p q s id amount now held, Writable takes shows id amount now → works p (some q) s →
    q.balance id = some held →
    (∃ made, (store.answer s (.append ⟨id, amount, now⟩)).1 = .ok made) ∧
      works p (some (q.post id amount.value)) (store.answer s (.append ⟨id, amount, now⟩)).2

theorem both_found {α : Type} (f : α → AccountId) (l : List α) (a b : AccountId) (distinct : (l.map f).Nodup)
    (different : a ≠ b) : (l.filter fun x => [a, b].contains (f x)).length < 2 ↔ a ∉ l.map f ∨ b ∉ l.map f := by
  have same : (l.filter fun x => [a, b].contains (f x)).length =
      ((l.map f).filter fun id => [a, b].contains id).length := by
    rw [List.filter_map, List.length_map]
    rfl
  rw [same]
  generalize l.map f = ids at distinct
  have once : (ids.filter fun id => [a, b].contains id).Nodup := distinct.filter _
  have among : ∀ x, x ∈ ids.filter (fun id => [a, b].contains id) ↔ x ∈ ids ∧ (x = a ∨ x = b) := by simp
  constructor
  · intro few
    by_contra both
    rw [not_or, not_not, not_not] at both
    have two : [a, b].Nodup := by simpa using different
    have covered : [a, b] ⊆ ids.filter fun id => [a, b].contains id := by
      intro x member
      rcases List.mem_pair.mp member with rfl | rfl
      · exact (among x).mpr ⟨both.1, .inl rfl⟩
      · exact (among x).mpr ⟨both.2, .inr rfl⟩
    exact absurd (two.subperm covered).length_le (Nat.not_le.mpr few)
  · intro missing
    have single : ∃ x, ids.filter (fun id => [a, b].contains id) ⊆ [x] := by
      rcases missing with none | none
      · refine ⟨b, fun x member => ?_⟩
        rcases ((among x).mp member).2 with rfl | rfl
        · exact absurd ((among x).mp member).1 none
        · exact List.mem_singleton.mpr rfl
      · refine ⟨a, fun x member => ?_⟩
        rcases ((among x).mp member).2 with rfl | rfl
        · exact List.mem_singleton.mpr rfl
        · exact absurd ((among x).mp member).1 none
    obtain ⟨x, within⟩ := single
    exact Nat.lt_succ_of_le (once.subperm within).length_le

theorem Ledger.rejection_gist (o : Operation) (e : LedgerError) (rejected : o.rejection? = some e) :
    (o.failed e).gist = .failed e := by
  cases o with
  | createAccount input =>
      simp only [Operation.rejection?] at rejected
      split at rejected <;> cases rejected
      rfl
  | createTransfer input =>
      simp only [Operation.rejection?] at rejected
      split at rejected
      · cases rejected
        rfl
      · split at rejected <;> cases rejected
        rfl
  | getBalance id | listEntries id => cases rejected

namespace Contract

variable {σ α : Type} {store : AnyStore σ} (contract : Contract store)

-- How the work of a unit ends: it stands for the position that it came to, or nothing of it does.
inductive Ends (before : Position) : Result α → Position → σ → Prop
  | ok (value : α) (after : Position) (s : σ) (works : contract.works before (some after) s) :
      Ends before (.ok value) after s
  | error (e : LedgerError) (q : Option Position) (s : σ) (works : contract.works before q s) :
      Ends before (.error e) before s

def Does (store : AnyStore σ) (p : Program α) (s : σ) (post : α → σ → Prop) : Prop :=
  post (p.play store s).answer (p.play store s).state

theorem attempt_does (c : Call) (failed : StoreError → LedgerError) (next : c.Reply → Program (Result α)) (s : σ)
    (value : c.Reply) (post : Result α → σ → Prop) (replied : (store.answer s c).1 = .ok value)
    (rest : Does store (next value) (store.answer s c).2 post) : Does store (Ledger.attempt c failed next) s post := by
  unfold Does Ledger.attempt Program.play
  simp only [replied]
  exact rest

theorem attempt_fails (c : Call) (failed : StoreError → LedgerError) (next : c.Reply → Program (Result α)) (s : σ)
    (e : StoreError) (post : Result α → σ → Prop) (replied : (store.answer s c).1 = .error e)
    (rest : post (.error (failed e)) (store.answer s c).2) : Does store (Ledger.attempt c failed next) s post := by
  unfold Does Ledger.attempt Program.play
  simp only [replied]
  exact rest

theorem clock_does (next : Stamp → Program α) (s : σ) (post : α → σ → Prop)
    (rest : Does store (next (store.clock s).1) (store.clock s).2 post) : Does store (.clock next) s post :=
  rest

theorem wrapped_does {β : Type} (p : Program α) (wrap : α → β) (s : σ) (post : β → σ → Prop)
    (does : Does store p s fun a after => post (wrap a) after) :
    Does store (p.bind fun a => .done (wrap a)) s post := by
  unfold Does
  rw [Program.play_bind_closes store p _ wrap s fun a => .done (wrap a)]
  exact does

-- The work of an operation, told by what its result comes to say.
def Follows (wrap : Result α → Outcome) (body : Program (Result α)) (before : Position) (told : Gist × Position) :
    Prop :=
  ∀ s, contract.works before (some before) s → Does store body s fun r after =>
    (wrap r).gist = told.1 ∧ contract.Ends before r told.2 after

theorem settles (context : String) (r : Result α) (before after : Position) (s : σ)
    (ends : contract.Ends before r after s) :
    Does store (Ledger.settle context r) s fun answer last => answer = r ∧ contract.rests after last := by
  cases ends with
  | ok value after s works =>
      obtain ⟨replied, rests⟩ := contract.commits before after s works
      exact attempt_does _ _ _ s () _ replied ⟨rfl, rests⟩
  | error e q s works =>
      have rests := contract.rollsBack before q s works
      unfold Does
      rw [Ledger.rollback_play]
      exact ⟨rfl, rests⟩

theorem unit_follows (wrap : Result α → Outcome) (context : String) (body : Program (Result α)) (before : Position)
    (told : Gist × Position) (s : σ) (follows : contract.Follows wrap body before told)
    (rests : contract.rests before s) :
    Does store (Ledger.inUnit context body) s fun r after =>
      (wrap r).gist = told.1 ∧ contract.rests told.2 after := by
  obtain ⟨replied, works⟩ := contract.begins before s rests
  refine attempt_does _ _ _ s () _ replied ?_
  obtain ⟨said, ends⟩ := follows _ works
  obtain ⟨same, last⟩ := contract.settles context _ before _ _ ends
  unfold Does
  rw [Program.play_bind]
  refine ⟨?_, last⟩
  rw [same]
  exact said

theorem task_follows (operation context : String) (wrap : Result α → Outcome) (line : α → LogLine)
    (body : Program (Result α)) (before : Position) (told : Gist × Position) (s : σ)
    (follows : contract.Follows wrap body before told) (rests : contract.rests before s) :
    Does store
      (((Ledger.bounded none operation (Ledger.inUnit context body)).bind (Ledger.reported line)).map wrap).body s
      fun outcome after => outcome.gist = told.1 ∧ contract.rests told.2 after := by
  have unit := contract.unit_follows wrap context body before told s follows rests
  have logged := Program.play_bind_closes store (Ledger.inUnit context body) (Ledger.reported line) id s
    (Ledger.reported_closes line)
  refine wrapped_does _ wrap s _ ?_
  change Does store ((Ledger.inUnit context body).bind (Ledger.reported line)) s _
  unfold Does
  rw [logged]
  exact unit

theorem insert_account_follows (id : AccountId) (amount : Decimal) (before : Position) (taken : contract.takes id)
    (money : amount.IsMoney) (nonneg : 0 ≤ amount.value) :
    contract.Follows Outcome.account (Ledger.insertAccount s!"create account {id}" id amount) before
      (before.openAccount id amount.value) := by
  intro start working
  obtain ⟨shown, works⟩ := contract.clock before (some before) start working
  refine clock_does _ start _ ?_
  generalize (store.clock start).1 = now at shown
  generalize (store.clock start).2 = s at works
  have payable : Payable contract.takes contract.shows id amount now := ⟨⟨taken, money, shown⟩, nonneg⟩
  rw [Position.openAccount]
  by_cases low : id < 1
  · obtain ⟨⟨detail, replied⟩, failed⟩ := contract.refuses before before s id amount now payable works low
    rw [if_pos low]
    exact attempt_fails _ _ _ s _ _ replied ⟨rfl, .error _ none _ failed⟩
  · rw [if_neg low]
    cases held : before.balance id with
    | some balance =>
        obtain ⟨⟨detail, replied⟩, failed⟩ :=
          contract.repeats before before s id amount now balance payable works low held
        exact attempt_fails _ _ _ s _ _ replied ⟨rfl, .error _ none _ failed⟩
    | none =>
        obtain ⟨⟨made, replied, sameId, sameBalance⟩, created⟩ :=
          contract.creates before before s id amount now payable works low held
        refine attempt_does _ _ _ s made _ replied ?_
        obtain ⟨⟨entry, appended⟩, posted⟩ :=
          contract.appends before _ _ id amount now amount.value payable.toWritable created (if_pos rfl)
        refine attempt_does _ _ _ _ entry _ appended ⟨?_, .ok made _ _ posted⟩
        change Gist.account made.id made.balance.value = _
        rw [sameId, sameBalance]

theorem move_funds_follows (source destination : AccountId) (amount : Decimal) (before : Position)
    (context : String) (bothTaken : contract.takes source ∧ contract.takes destination)
    (different : source ≠ destination)
    (money : amount.IsMoney) (nonneg : 0 ≤ amount.value)
    (room : ∀ id q, (before.transfer source destination amount.value).2.balance id = some q → q < 10 ^ 23) :
    contract.Follows Outcome.transfer (Ledger.moveFunds context source destination amount) before
      (before.transfer source destination amount.value) := by
  intro start working
  obtain ⟨found, replied, both, counted⟩ :=
    contract.counts before before start source destination bothTaken.1 bothTaken.2 different working
  refine attempt_does _ _ _ start found _ replied ?_
  generalize (store.answer start (.getAccounts [source, destination])).2 = s at counted
  -- An account is missing, or the source has too little: the store finds both where the position says so.
  by_cases few : found.length < 2
  · have missing : before.transfer source destination amount.value =
        (.failed (.partyNotFound source destination), before) := by
      unfold Position.transfer
      rcases both.mp few with none | none
      · rw [none]
      · rw [none]
        cases before.balance source <;> rfl
    rw [if_pos few, missing]
    exact ⟨rfl, .error _ _ _ counted⟩
  rw [if_neg few]
  have present : before.balance source ≠ none ∧ before.balance destination ≠ none := by
    constructor
    · exact fun none => few (both.mpr (.inl none))
    · exact fun none => few (both.mpr (.inr none))
  obtain ⟨held, ofSource⟩ := Option.ne_none_iff_exists'.mp present.1
  obtain ⟨other, ofDestination⟩ := Option.ne_none_iff_exists'.mp present.2
  rw [Position.transfer, ofSource, ofDestination] at room ⊢
  simp only at room ⊢
  obtain ⟨shown, works⟩ := contract.clock before (some before) s counted
  refine clock_does _ s _ ?_
  generalize (store.clock s).1 = now at shown
  generalize (store.clock s).2 = s at works
  have pays : Payable contract.takes contract.shows source amount now := ⟨⟨bothTaken.1, money, shown⟩, nonneg⟩
  have receives : Payable contract.takes contract.shows destination amount now := ⟨⟨bothTaken.2, money, shown⟩, nonneg⟩
  by_cases short : held < amount.value
  · obtain ⟨replied, spared⟩ := contract.spares before before s source amount now held pays works ofSource short
    rw [if_pos short]
    refine attempt_does _ _ _ s 0 _ replied ?_
    rw [if_pos rfl]
    exact ⟨rfl, .error _ _ _ spared⟩
  rw [if_neg short] at room ⊢
  obtain ⟨replied, debited⟩ := contract.debits before before s source amount now held pays works ofSource short
  refine attempt_does _ _ _ s 1 _ replied ?_
  rw [if_neg Nat.one_ne_zero]
  have limit : other + amount.value < 10 ^ 23 := room destination _ (by simp)
  obtain ⟨replied, credited⟩ := contract.credits before _ _ destination amount now other receives debited
    (by rw [Position.put_balance, if_neg (Ne.symm different), ofDestination]) limit
  refine attempt_does _ _ _ _ 1 _ replied ?_
  rw [if_neg Nat.one_ne_zero]
  have outgoing : Writable contract.takes contract.shows source amount.neg now :=
    ⟨bothTaken.1, Decimal.money_neg amount money, shown⟩
  obtain ⟨⟨left, replied⟩, first⟩ := contract.appends before _ _ source amount.neg now (held - amount.value) outgoing
    credited (by simp [different])
  refine attempt_does _ _ _ _ left _ replied ?_
  obtain ⟨⟨right, replied⟩, second⟩ := contract.appends before _ _ destination amount now (other + amount.value)
    receives.toWritable first (by simp)
  refine attempt_does _ _ _ _ right _ replied ⟨rfl, .ok () _ _ ?_⟩
  rw [Decimal.value_neg] at second
  exact second

theorem read_account_does (p : Position) (id : AccountId) (s : σ) (taken : contract.takes id)
    (rests : contract.rests p s) :
    Does store (Ledger.readAccount id) s fun r after => contract.rests p after ∧
      match p.balance id with
      | some q => ∃ a : Account, r = .ok a ∧ a.id = id ∧ a.balance.value = q
      | none => r = .error (.notFound id) := by
  obtain ⟨found, replied, same, resting⟩ := contract.finds p s id taken rests
  refine attempt_does _ _ _ s found _ replied ?_
  cases found with
  | none =>
      have unknown : p.balance id = none := Option.map_eq_none_iff.mp same.symm
      rw [unknown]
      exact ⟨resting, rfl⟩
  | some a =>
      obtain ⟨q, known, pair⟩ := Option.map_eq_some_iff.mp same.symm
      rw [known]
      exact ⟨resting, a, rfl, (congrArg Prod.fst pair).symm, (congrArg Prod.snd pair).symm⟩

theorem read_entries_does (p : Position) (id : AccountId) (s : σ) (taken : contract.takes id)
    (rests : contract.rests p s) :
    Does store (Ledger.readEntries id) s fun r after => contract.rests p after ∧
      match p.balance id with
      | some _ => ∃ entries : List Entry, r = .ok entries ∧ entries.map (fun e => e.amount.value) = p.entries id
      | none => r = .error (.notFound id) := by
  obtain ⟨resting, looked⟩ := contract.read_account_does p id s taken rests
  unfold Does Ledger.readEntries
  rw [Program.play_bind]
  cases known : p.balance id with
  | none =>
      rw [known] at looked
      rw [looked]
      exact ⟨resting, rfl⟩
  | some q =>
      rw [known] at looked
      obtain ⟨a, answered, _⟩ := looked
      rw [answered]
      obtain ⟨entries, replied, same, after⟩ := contract.lists p _ id taken resting
      exact attempt_does (Call.listEntries id) _ _ _ entries (fun r last => contract.rests p last ∧
        ∃ entries : List Entry,
        r = .ok entries ∧ entries.map (fun e => e.amount.value) = p.entries id) replied ⟨after, entries, rfl, same⟩

theorem get_balance_follows (p : Position) (id : AccountId) (s : σ) (taken : contract.takes id)
    (rests : contract.rests p s) :
    Does store ((Operation.getBalance id).task none).body s fun outcome after =>
      outcome.gist = (p.whereKnown id (.account id)).1 ∧ contract.rests p after := by
  obtain ⟨resting, looked⟩ := contract.read_account_does p id s taken rests
  refine wrapped_does _ Outcome.account s _ ?_
  rw [Position.whereKnown]
  cases known : p.balance id with
  | none =>
      rw [known] at looked
      exact ⟨congrArg (fun r => (Outcome.account r).gist) looked, resting⟩
  | some q =>
      rw [known] at looked
      obtain ⟨a, answered, rfl, rfl⟩ := looked
      exact ⟨congrArg (fun r => (Outcome.account r).gist) answered, resting⟩

theorem list_entries_follows (p : Position) (id : AccountId) (s : σ) (taken : contract.takes id)
    (rests : contract.rests p s) :
    Does store ((Operation.listEntries id).task none).body s fun outcome after =>
      outcome.gist = (p.whereKnown id fun _ => .entries (p.entries id)).1 ∧ contract.rests p after := by
  obtain ⟨resting, looked⟩ := contract.read_entries_does p id s taken rests
  refine wrapped_does _ Outcome.entries s _ ?_
  rw [Position.whereKnown]
  cases known : p.balance id with
  | none =>
      rw [known] at looked
      exact ⟨congrArg (fun r => (Outcome.entries r).gist) looked, resting⟩
  | some q =>
      rw [known] at looked
      obtain ⟨entries, answered, same⟩ := looked
      rw [← same]
      exact ⟨congrArg (fun r => (Outcome.entries r).gist) answered, resting⟩

theorem create_account_follows (p : Position) (input : NewAccount) (s : σ)
    (accepted : (Operation.createAccount input).rejection? = none) (taken : contract.takes input.id)
    (small : (Amount.round input.initialBalance).value < 10 ^ 23) (rests : contract.rests p s) :
    Does store ((Operation.createAccount input).task none).body s fun outcome after =>
      outcome.gist = (p.openAccount input.id (Amount.round input.initialBalance).value).1 ∧
        contract.rests (p.openAccount input.id (Amount.round input.initialBalance).value).2 after := by
  have nonneg := Ledger.accepted_nonneg _ _ rfl accepted
  have money := Decimal.round_money input.initialBalance
    ((below_limit _).mpr (by rw [abs_of_nonneg nonneg]; exact small))
  simp only [Operation.task, Ledger.accepted_account none input accepted]
  exact contract.task_follows _ _ _ _ _ p _ s
    (contract.insert_account_follows input.id _ p taken money nonneg) rests

theorem create_transfer_follows (p : Position) (input : Transfer) (s : σ)
    (accepted : (Operation.createTransfer input).rejection? = none)
    (bothTaken : contract.takes input.source ∧ contract.takes input.destination)
    (small : (Amount.round input.amount).value < 10 ^ 23)
    (room : ∀ id q, (p.transfer input.source input.destination (Amount.round input.amount).value).2.balance id = some q →
      q < 10 ^ 23) (rests : contract.rests p s) :
    Does store ((Operation.createTransfer input).task none).body s fun outcome after =>
      outcome.gist = (p.transfer input.source input.destination (Amount.round input.amount).value).1 ∧
        contract.rests (p.transfer input.source input.destination (Amount.round input.amount).value).2 after := by
  have nonneg := Ledger.accepted_nonneg _ _ rfl accepted
  have money := Decimal.round_money input.amount
    ((below_limit _).mpr (by rw [abs_of_nonneg nonneg]; exact small))
  have different := Ledger.accepted_apart input accepted
  simp only [Operation.task, Ledger.accepted_transfer none input accepted]
  exact contract.task_follows _ _ _ _ _ p _ s
    (contract.move_funds_follows input.source input.destination _ p _ bothTaken different money nonneg room) rests

/-- On a store that keeps to the contract an operation does what it does to a position. -/
theorem operation_follows (p : Position) (o : Operation) (s : σ) (taken : ∀ id ∈ o.ids, contract.takes id)
    (fits : p.WithinLimit o) (rests : contract.rests p s) :
    Does store (o.task none).body s fun outcome after =>
      outcome.gist = (p.perform o).1 ∧ contract.rests (p.perform o).2 after := by
  have room := fits.balance
  unfold Position.perform at room ⊢
  cases rejected : o.rejection? with
  | some e =>
      rw [Ledger.rejected_task none o e rejected]
      exact ⟨Ledger.rejection_gist o e rejected, rests⟩
  | none =>
      rw [rejected] at room
      cases o with
      | createAccount input =>
          exact contract.create_account_follows p input s rejected (taken _ List.mem_cons_self) (fits.amount _ rfl) rests
      | createTransfer input =>
          have bothTaken : contract.takes input.source ∧ contract.takes input.destination :=
            ⟨taken _ (by simp [Operation.ids]), taken _ (by simp [Operation.ids])⟩
          exact contract.create_transfer_follows p input s rejected bothTaken (fits.amount _ rfl) room rests
      | getBalance id =>
          rw [Position.known_balance]
          exact contract.get_balance_follows p id s (taken _ List.mem_cons_self) rests
      | listEntries id =>
          rw [Position.known_balance]
          exact contract.list_entries_follows p id s (taken _ List.mem_cons_self) rests

end Contract
end DoubleEntry
