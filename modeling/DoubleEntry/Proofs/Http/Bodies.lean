import DoubleEntry.Http.Router
import DoubleEntry.Proofs.Json.Written

/-!
Bodies of answers and of requests. A client that reads an answer finds in it what was put there, and the service finds in a
plain body what a client asks for.
-/

set_option autoImplicit false

namespace DoubleEntry.Http

open Json (Datum Member Takes textJson intJson objectJson readInt64 readText)

def BalanceBody.decode? (body : String) : Option BalanceBody := Json.decode? BalanceBody.read ofDatum? body

def EntriesBody.decode? (body : String) : Option EntriesBody := Json.decode? EntriesBody.read ofDatum? body

theorem balance_body_decoded (b : BalanceBody) : BalanceBody.decode? b.toJson = some b := by
  have takes : Takes BalanceBody.read b.toJson (.record [.text b.account, .text b.balance]) := by
    have distinct : (BalanceBody.fields.map Json.Field.name).Nodup := by decide
    refine Json.record_takes "BalanceResponse"
      [⟨⟨"account_id", false, readText⟩, textJson b.account, .text b.account⟩,
        ⟨⟨"balance", false, readText⟩, textJson b.balance, .text b.balance⟩] ?_ distinct
    simp only [List.forall_mem_cons, List.not_mem_nil, false_implies, implies_true, and_true]
    exact ⟨Json.text_takes _, Json.text_takes _⟩
  rw [BalanceBody.decode?, Json.decode_written _ _ _ _ takes]
  rfl

theorem entry_body_takes (e : EntryBody) (fits : Text.isInt64 e.id = true) :
    Takes EntryBody.read e.toJson (.record [.int e.id, .text e.amount, .text e.created]) ∧ Json.Opens e.toJson := by
  let members : List Member :=
    [⟨⟨"entry_id", false, readInt64⟩, intJson e.id, .int e.id⟩,
      ⟨⟨"amount", false, readText⟩, textJson e.amount, .text e.amount⟩,
      ⟨⟨"created_at", false, readText⟩, textJson e.created, .text e.created⟩]
  have distinct : (EntryBody.fields.map Json.Field.name).Nodup := by decide
  refine ⟨Json.record_takes "EntryResponse" members ?_ distinct, Json.object_opens members⟩
  simp only [members, List.forall_mem_cons, List.not_mem_nil, false_implies, implies_true, and_true]
  exact ⟨Json.int_takes _ fits, Json.text_takes _, Json.text_takes _⟩

theorem entries_body_decoded (b : EntriesBody) (fits : ∀ e ∈ b.entries, Text.isInt64 e.id = true) :
    EntriesBody.decode? b.toJson = some b := by
  let shown : EntryBody → Datum := fun e => .record [.int e.id, .text e.amount, .text e.created]
  have list : Takes (Json.readList EntryBody.read) (Json.listJson (b.entries.map EntryBody.toJson))
      (.list (b.entries.map shown)) := by
    have items := Json.list_takes EntryBody.read (b.entries.map fun e => (e.toJson, shown e)) (by
      intro item member
      obtain ⟨e, among, rfl⟩ := List.mem_map.mp member
      exact entry_body_takes e (fits e among))
    rwa [List.map_map, List.map_map] at items
  have takes : Takes EntriesBody.read b.toJson (.record [.text b.account, .list (b.entries.map shown)]) := by
    have distinct : (EntriesBody.fields.map Json.Field.name).Nodup := by decide
    refine Json.record_takes "EntriesResponse"
      [⟨⟨"account_id", false, readText⟩, textJson b.account, .text b.account⟩,
        ⟨⟨"entries", false, Json.readList EntryBody.read⟩, _, .list (b.entries.map shown)⟩] ?_ distinct
    simp only [List.forall_mem_cons, List.not_mem_nil, false_implies, implies_true, and_true]
    exact ⟨Json.text_takes _, list⟩
  have found : (b.entries.map shown).mapM EntryBody.ofDatum? = some b.entries := by
    have own : EntryBody.ofDatum? ∘ shown = fun e => pure (id e) := rfl
    rw [List.mapM_map, own, List.mapM_pure, List.map_id]
    rfl
  rw [EntriesBody.decode?, Json.decode_written _ _ _ _ takes, EntriesBody.ofDatum?, found, Option.map_some]

def transferJson (source destination : AccountId) (amount : String) : String :=
  objectJson [("source_account_id", intJson source), ("destination_account_id", intJson destination),
    ("amount", textJson amount)]

theorem transfer_body_decoded (source destination : AccountId) (amount : String)
    (fits : Text.isInt64 source = true ∧ Text.isInt64 destination = true) :
    Json.readAll TransferRequest.read (Text.encode (transferJson source destination amount)) =
      .ok (.record [.int source, .int destination, .text amount]) := by
  apply Json.read_written
  have distinct : (TransferRequest.fields.map Json.Field.name).Nodup := by decide
  refine Json.record_takes "TransactionRequest"
    [⟨⟨"source_account_id", true, Json.readOptional readInt64⟩, intJson source, .int source⟩,
      ⟨⟨"destination_account_id", true, Json.readOptional readInt64⟩, intJson destination, .int destination⟩,
      ⟨⟨"amount", true, Json.readOptional readText⟩, textJson amount, .text amount⟩] ?_ distinct
  simp only [List.forall_mem_cons, List.not_mem_nil, false_implies, implies_true, and_true]
  refine ⟨?_, ?_, ?_⟩
  · exact Json.optional_takes _ _ _ (Json.int_takes source fits.1) (Json.int_opens source)
  · exact Json.optional_takes _ _ _ (Json.int_takes destination fits.2) (Json.int_opens destination)
  · exact Json.optional_takes _ _ _ (Json.text_takes amount) (Json.text_opens amount)

end DoubleEntry.Http
