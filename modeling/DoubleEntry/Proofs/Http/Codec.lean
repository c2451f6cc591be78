import DoubleEntry.Proofs.Decimal.Text
import DoubleEntry.Proofs.Http.Bodies
import DoubleEntry.Proofs.Json.Yields

/-!
What is written and what is read. An account, an entry or a body of an answer is read back from its own text. Whatever text
one of them is read from, its own text stands for the same from then on; only the sign of a zero is lost on the way.
-/

set_option autoImplicit false

namespace DoubleEntry

open Json (Datum Member Column Takes Yields textJson intJson readInt64 readText readDecimal readMoment)

namespace Decimal

variable (d : Decimal)

def unsignedZero : Decimal := { d with negative := d.negative && d.mantissa != 0 }

theorem unsigned_zero_alike : d.unsignedZero.Alike d := by
  refine ⟨rfl, rfl, ?_⟩
  by_cases none : d.mantissa = 0
  · exact .inr none
  · left
    simp [unsignedZero, none]

theorem unsigned_zero_again : d.unsignedZero.unsignedZero = d.unsignedZero := by
  simp [unsignedZero]

theorem text_read : ofText? d.text = some d.unsignedZero := by
  obtain ⟨e, read, mantissa, scale, sign, _⟩ :=
    numeral_kept d.printed (by rw [printed_count]; exact d.mantissa_lt) (by rw [printed_places]; exact d.scale_le)
  rw [printed_text] at read
  rw [printed_count] at mantissa sign
  rw [printed_places] at scale
  have same : e = d.unsignedZero := by
    cases e
    cases mantissa
    cases scale
    cases sign
    rfl
  rw [ofText?, read, same]
  rfl

end Decimal

namespace Json

theorem decimal_takes (d : Decimal) : Takes readDecimal (decimalJson d) (.decimal d.unsignedZero) := by
  intro rest index _
  have body := text_body d.toText rest index
  obtain ⟨more, bytes⟩ : ∃ more, Text.encode (textJson d.toText) ++ rest = byte '"' :: more :=
    ⟨_, by rw [encode_text]; rfl⟩
  have chars : d.toText.toList = d.text := String.toList_ofList
  rw [decimalJson]
  rw [bytes] at body ⊢
  rw [readDecimal, at_value _ _ _ _ (by decide)]
  simp only [beq_self_eq_true, if_true, body, bind, Except.bind, chars, d.text_read]

theorem moment_takes (m : Time.Moment) (plain : m.IsPlain) (utc : m.IsUtc) :
    Takes readMoment (textJson m.withZ) (.moment m) := by
  refine text_as_takes _ _ _ _ fun c => ?_
  simp only [Time.Moment.parse_written m plain utc]

theorem decode_read {α : Type} (read : Reader Datum) (ofDatum? : Datum → Option α) (good : Datum → Prop)
    (yields : Yields read good) (text : String) (a : α) (decoded : decode? read ofDatum? text = some a) :
    ∃ value, good value ∧ ofDatum? value = some a := by
  rw [decode?] at decoded
  cases result : readAll read (Text.encode text) with
  | error e =>
      rw [result] at decoded
      cases decoded
  | ok value =>
      rw [result] at decoded
      exact ⟨value, read_all_yields read good yields _ value result, decoded⟩

def intColumn (name : String) : Column := ⟨⟨name, false, readInt64⟩, IsInt, int_yields, nofun⟩

def textColumn (name : String) : Column := ⟨⟨name, false, readText⟩, IsText, text_yields, nofun⟩

def decimalColumn (name : String) : Column := ⟨⟨name, false, readDecimal⟩, IsDecimal, decimal_yields, nofun⟩

def momentColumn (name : String) : Column := ⟨⟨name, false, readMoment⟩, IsMoment, moment_yields, nofun⟩

/-- The text of a value is read as one that is no different. From then on neither the value nor its text changes. -/
def Settles {α : Type} (decode? : String → Option α) (write : α → String) (alike : α → α → Prop) (a : α) : Prop :=
  ∃ b, decode? (write a) = some b ∧ alike b a ∧ decode? (write b) = some b

theorem settles_itself {α : Type} (decode? : String → Option α) (write : α → String) (a : α)
    (decoded : decode? (write a) = some a) : Settles decode? write Eq a :=
  ⟨a, decoded, rfl, decoded⟩

/-- Values settle, and so does what is read of any text. -/
structure RoundTrips {α : Type} (decode? : String → Option α) (write : α → String) (alike : α → α → Prop)
    (fits dated : α → Prop) : Prop where
  written : ∀ a, fits a → Settles decode? write alike a
  read : ∀ text a, decode? text = some a → dated a → Settles decode? write alike a

end Json

namespace Time.Stamp

def IsDated (s : Stamp) : Prop := ∃ m, s = .moment m ∧ m.IsUtc ∧ m.IsPlain

def IsPlain (s : Stamp) : Prop := ∃ m, s = .moment m ∧ m.IsPlain

end Time.Stamp

namespace Account

def decode? (text : String) : Option Account := Json.decode? Account.read Account.ofDatum? text

/-- Accounts of no difference: zeros may differ in their sign. -/
structure Alike (a b : Account) : Prop where
  id : a.id = b.id
  balance : a.balance.Alike b.balance
  created : a.created = b.created
  modified : a.modified = b.modified

structure WellFormed (a : Account) : Prop where
  id : Text.isInt64 a.id = true
  created : a.created.IsDated
  modified : a.modified.IsDated

def columns : List Column :=
  [Json.intColumn "account_id", Json.decimalColumn "balance", Json.momentColumn "created_date",
    Json.momentColumn "last_modified_date"]

def IsPlain (a : Account) : Prop := a.created.IsPlain ∧ a.modified.IsPlain

variable (a : Account)

def unsignedZero : Account := { a with balance := a.balance.unsignedZero }

theorem decode_written (fits : a.WellFormed) : decode? a.toJson = some a.unsignedZero := by
  obtain ⟨created, createdMoment, createdUtc, createdPlain⟩ := fits.created
  obtain ⟨modified, modifiedMoment, modifiedUtc, modifiedPlain⟩ := fits.modified
  have takes : Takes Account.read a.toJson
      (.record [.int a.id, .decimal a.balance.unsignedZero, .moment created, .moment modified]) := by
    have distinct : (Account.fields.map Json.Field.name).Nodup := by decide
    rw [toJson, createdMoment, modifiedMoment]
    refine Json.record_takes "Account"
      [⟨⟨"account_id", false, readInt64⟩, intJson a.id, .int a.id⟩,
        ⟨⟨"balance", false, readDecimal⟩, decimalJson a.balance, .decimal a.balance.unsignedZero⟩,
        ⟨⟨"created_date", false, readMoment⟩, textJson created.withZ, .moment created⟩,
        ⟨⟨"last_modified_date", false, readMoment⟩, textJson modified.withZ, .moment modified⟩] ?_ distinct
    simp only [List.forall_mem_cons, List.not_mem_nil, false_implies, implies_true, and_true]
    exact ⟨Json.int_takes _ fits.id, Json.decimal_takes _, Json.moment_takes _ createdPlain createdUtc,
      Json.moment_takes _ modifiedPlain modifiedUtc⟩
  rw [decode?, Json.decode_written _ _ _ _ takes, ofDatum?, unsignedZero, createdMoment, modifiedMoment]

theorem settles (fits : a.WellFormed) : Json.Settles decode? toJson Alike a := by
  have again := decode_written a.unsignedZero ⟨fits.id, fits.created, fits.modified⟩
  have same : a.unsignedZero.unsignedZero = a.unsignedZero := by
    rw [unsignedZero, unsignedZero, Decimal.unsigned_zero_again]
  rw [same] at again
  exact ⟨a.unsignedZero, decode_written a fits, ⟨rfl, Decimal.unsigned_zero_alike _, rfl, rfl⟩, again⟩

theorem read_well_formed (text : String) (decoded : decode? text = some a) (plain : a.IsPlain) : a.WellFormed := by
  obtain ⟨_, ⟨values, rfl, good⟩, own⟩ := Json.decode_read _ _ _ (Json.record_yields columns "Account") text a decoded
  obtain _ | ⟨⟨id, rfl, idFits⟩, good⟩ := good
  obtain _ | ⟨⟨balance, rfl⟩, good⟩ := good
  obtain _ | ⟨⟨created, rfl, createdUtc⟩, good⟩ := good
  obtain _ | ⟨⟨modified, rfl, modifiedUtc⟩, good⟩ := good
  cases good
  cases own
  obtain ⟨⟨_, ⟨⟩, createdPlain⟩, ⟨_, ⟨⟩, modifiedPlain⟩⟩ := plain
  exact ⟨idFits, ⟨created, rfl, createdUtc, createdPlain⟩, ⟨modified, rfl, modifiedUtc, modifiedPlain⟩⟩

end Account

namespace Entry

def decode? (text : String) : Option Entry := Json.decode? Entry.read Entry.ofDatum? text

structure Alike (a b : Entry) : Prop where
  id : a.id = b.id
  account : a.account = b.account
  amount : a.amount.Alike b.amount
  created : a.created = b.created

structure WellFormed (e : Entry) : Prop where
  id : Text.isInt64 e.id = true
  account : Text.isInt64 e.account = true
  created : e.created.IsDated

def columns : List Column :=
  [Json.intColumn "entry_id", Json.intColumn "account_id", Json.decimalColumn "amount", Json.momentColumn "created_date"]

def IsPlain (e : Entry) : Prop := e.created.IsPlain

variable (e : Entry)

def unsignedZero : Entry := { e with amount := e.amount.unsignedZero }

theorem decode_written (fits : e.WellFormed) : decode? e.toJson = some e.unsignedZero := by
  obtain ⟨created, createdMoment, createdUtc, createdPlain⟩ := fits.created
  have takes : Takes Entry.read e.toJson
      (.record [.int e.id, .int e.account, .decimal e.amount.unsignedZero, .moment created]) := by
    have distinct : (Entry.fields.map Json.Field.name).Nodup := by decide
    rw [toJson, createdMoment]
    refine Json.record_takes "LedgerEntry"
      [⟨⟨"entry_id", false, readInt64⟩, intJson e.id, .int e.id⟩,
        ⟨⟨"account_id", false, readInt64⟩, intJson e.account, .int e.account⟩,
        ⟨⟨"amount", false, readDecimal⟩, decimalJson e.amount, .decimal e.amount.unsignedZero⟩,
        ⟨⟨"created_date", false, readMoment⟩, textJson created.withZ, .moment created⟩] ?_ distinct
    simp only [List.forall_mem_cons, List.not_mem_nil, false_implies, implies_true, and_true]
    exact ⟨Json.int_takes _ fits.id, Json.int_takes _ fits.account, Json.decimal_takes _,
      Json.moment_takes _ createdPlain createdUtc⟩
  rw [decode?, Json.decode_written _ _ _ _ takes, ofDatum?, unsignedZero, createdMoment]

theorem settles (fits : e.WellFormed) : Json.Settles decode? toJson Alike e := by
  have again := decode_written e.unsignedZero ⟨fits.id, fits.account, fits.created⟩
  have same : e.unsignedZero.unsignedZero = e.unsignedZero := by
    rw [unsignedZero, unsignedZero, Decimal.unsigned_zero_again]
  rw [same] at again
  exact ⟨e.unsignedZero, decode_written e fits, ⟨rfl, rfl, Decimal.unsigned_zero_alike _, rfl⟩, again⟩

theorem read_well_formed (text : String) (decoded : decode? text = some e) (plain : e.IsPlain) : e.WellFormed := by
  obtain ⟨_, ⟨values, rfl, good⟩, own⟩ := Json.decode_read _ _ _ (Json.record_yields columns "LedgerEntry") text e decoded
  obtain _ | ⟨⟨id, rfl, idFits⟩, good⟩ := good
  obtain _ | ⟨⟨account, rfl, accountFits⟩, good⟩ := good
  obtain _ | ⟨⟨amount, rfl⟩, good⟩ := good
  obtain _ | ⟨⟨created, rfl, createdUtc⟩, good⟩ := good
  cases good
  cases own
  obtain ⟨_, ⟨⟩, createdPlain⟩ := plain
  exact ⟨idFits, accountFits, ⟨created, rfl, createdUtc, createdPlain⟩⟩

end Entry

namespace Http

section Bodies

def EntryBody.decode? (text : String) : Option EntryBody := Json.decode? EntryBody.read EntryBody.ofDatum? text

theorem entry_body_decoded (e : EntryBody) (fits : Text.isInt64 e.id = true) : EntryBody.decode? e.toJson = some e := by
  rw [EntryBody.decode?, Json.decode_written _ _ _ _ (entry_body_takes e fits).1]
  rfl

def EntryBody.columns : List Column :=
  [Json.intColumn "entry_id", Json.textColumn "amount", Json.textColumn "created_at"]

def IsEntryBody (value : Datum) : Prop :=
  ∃ values, value = .record values ∧ List.Forall₂ Column.good EntryBody.columns values

theorem entry_body_yields : Yields EntryBody.read IsEntryBody := Json.record_yields EntryBody.columns "EntryResponse"

def EntriesBody.columns : List Column :=
  [Json.textColumn "account_id",
    ⟨⟨"entries", false, Json.readList EntryBody.read⟩, _, Json.list_yields _ _ entry_body_yields, nofun⟩]

theorem entry_body_well_formed (value : Datum) (good : IsEntryBody value) (e : EntryBody)
    (own : EntryBody.ofDatum? value = some e) : Text.isInt64 e.id = true := by
  obtain ⟨values, rfl, good⟩ := good
  obtain _ | ⟨⟨id, rfl, idFits⟩, good⟩ := good
  obtain _ | ⟨⟨amount, rfl⟩, good⟩ := good
  obtain _ | ⟨⟨created, rfl⟩, good⟩ := good
  cases good
  cases own
  exact idFits

theorem entry_bodies_fit (values : List Datum) (good : ∀ value ∈ values, IsEntryBody value) (entries : List EntryBody)
    (own : values.mapM EntryBody.ofDatum? = some entries) : ∀ e ∈ entries, Text.isInt64 e.id = true := by
  induction values generalizing entries with
  | nil =>
      cases own
      exact List.forall_mem_nil _
  | cons value values ih =>
      obtain ⟨first, others⟩ := List.forall_mem_cons.mp good
      rw [List.mapM_cons] at own
      obtain ⟨e, here, own⟩ := Option.bind_eq_some_iff.mp own
      obtain ⟨later, rest, own⟩ := Option.bind_eq_some_iff.mp own
      cases own
      exact List.forall_mem_cons.mpr ⟨entry_body_well_formed value first e here, ih others later rest⟩

theorem entries_body_well_formed (text : String) (b : EntriesBody) (decoded : EntriesBody.decode? text = some b) :
    ∀ e ∈ b.entries, Text.isInt64 e.id = true := by
  obtain ⟨_, ⟨values, rfl, good⟩, own⟩ :=
    Json.decode_read _ _ _ (Json.record_yields EntriesBody.columns "EntriesResponse") text b decoded
  obtain _ | ⟨⟨account, rfl⟩, good⟩ := good
  obtain _ | ⟨⟨items, rfl, bodies⟩, good⟩ := good
  cases good
  obtain ⟨found, listed, rfl⟩ := Option.map_eq_some_iff.mp own
  exact entry_bodies_fit items bodies found listed

end Bodies
end Http

/-- What is written of an account, an entry or a body of an answer is read back: the same ids, texts and moments, and
decimals with the same digits at the same scale, where only a zero loses its sign. In whatever spelling a text gives one of
them, its own text stands for the same, and does not change after it has been read once more. -/
theorem texts_settle :
    Json.RoundTrips Account.decode? Account.toJson Account.Alike Account.WellFormed Account.IsPlain ∧
    Json.RoundTrips Entry.decode? Entry.toJson Entry.Alike Entry.WellFormed Entry.IsPlain ∧
    Json.RoundTrips Http.BalanceBody.decode? Http.BalanceBody.toJson Eq (fun _ => True) (fun _ => True) ∧
    Json.RoundTrips Http.EntryBody.decode? Http.EntryBody.toJson Eq (fun e => Text.isInt64 e.id = true) (fun _ => True) ∧
    Json.RoundTrips Http.EntriesBody.decode? Http.EntriesBody.toJson Eq
      (fun b => ∀ e ∈ b.entries, Text.isInt64 e.id = true) (fun _ => True) := by
  refine ⟨⟨Account.settles, ?_⟩, ⟨Entry.settles, ?_⟩, ⟨?_, ?_⟩, ⟨?_, ?_⟩, ⟨?_, ?_⟩⟩
  · exact fun text a decoded plain => Account.settles a (Account.read_well_formed a text decoded plain)
  · exact fun text e decoded plain => Entry.settles e (Entry.read_well_formed e text decoded plain)
  · exact fun b _ => Json.settles_itself _ _ b (Http.balance_body_decoded b)
  · exact fun text b _ _ => Json.settles_itself _ _ b (Http.balance_body_decoded b)
  · exact fun e fits => Json.settles_itself _ _ e (Http.entry_body_decoded e fits)
  · intro text e decoded _
    obtain ⟨value, good, own⟩ := Json.decode_read _ _ _ Http.entry_body_yields text e decoded
    exact Json.settles_itself _ _ e (Http.entry_body_decoded e (Http.entry_body_well_formed value good e own))
  · exact fun b fits => Json.settles_itself _ _ b (Http.entries_body_decoded b fits)
  · intro text b decoded _
    exact Json.settles_itself _ _ b (Http.entries_body_decoded b (Http.entries_body_well_formed text b decoded))

-- Opened when no clock was there, changed within a leap second, and overdrawn by nothing.
def ancient : Account :=
  ⟨-9223372036854775808, { Decimal.zero with negative := true, scale := 2, scale_le := by decide },
    .moment ⟨-62167219200, 1000, by decide⟩, .moment ⟨1483228799, 1500000000, by decide⟩⟩

-- The same in another spelling: without names, and with a clock half an hour behind.
def ancientText : String :=
  "[-9223372036854775808 , \"-0.0_0\", \"0000-01-01 00:00:00.000001z\", \"2016-12-31T23:29:60.5-00:30\"]"

theorem texts_settle_ancient : ancient.WellFormed ∧ Json.Settles Account.decode? Account.toJson Account.Alike ancient ∧
    Account.decode? ancientText = some ancient.unsignedZero ∧ ancient.unsignedZero.IsPlain ∧
    Json.Settles Account.decode? Account.toJson Account.Alike ancient.unsignedZero := by
  have fits : ancient.WellFormed :=
    ⟨by decide, ⟨_, rfl, by decide, by decide⟩, ⟨_, rfl, by decide, by decide⟩⟩
  have decoded : Account.decode? ancientText = some ancient.unsignedZero := by decide +kernel
  have plain : ancient.unsignedZero.IsPlain := ⟨⟨_, rfl, by decide⟩, ⟨_, rfl, by decide⟩⟩
  exact ⟨fits, texts_settle.1.written ancient fits, decoded, plain, texts_settle.1.read ancientText _ decoded plain⟩

end DoubleEntry
