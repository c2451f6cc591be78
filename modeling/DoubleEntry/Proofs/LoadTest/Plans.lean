import DoubleEntry.LoadTest.Run
import DoubleEntry.Proofs.History.Posted

/-!
The requests of a load test. Each is small, goes to the route of its kind, and is read there as what it was written from.
-/

set_option autoImplicit false

namespace DoubleEntry

open Text (encode)

namespace Decimal

theorem text_size (d : Decimal) : d.text.length ≤ 31 := by
  have digits : (Text.digits d.mantissa).length ≤ 29 :=
    (Nat.length_toDigits_le_iff (by decide) (by decide)).mpr (Nat.lt_trans d.mantissa_lt (by decide))
  have scale := d.scale_le
  have padded : (Text.padLeft (d.scale + 1) '0' (Text.digits d.mantissa)).length ≤ 29 := by
    rw [Text.padLeft, List.length_append, List.length_replicate]
    omega
  have magnitude : (magnitudeText d.mantissa d.scale).length ≤ 30 := by
    rw [magnitudeText]
    split
    · rw [List.length_take]
      omega
    · rw [List.length_append, List.length_cons, List.length_take, List.length_drop]
      omega
  rw [text]
  split
  · exact Nat.succ_le_succ magnitude
  · exact Nat.le_succ_of_le magnitude

end Decimal

namespace Json

theorem int_size (n : Int) (fits : Text.isInt64 n = true) : (encode (intJson n)).length ≤ 20 := by
  have bounds : -(twoTo 63 : Int) ≤ n ∧ n < twoTo 63 := by simpa [Text.isInt64] using fits
  have power : twoTo 63 < 10 ^ 19 := by decide
  have digits : (Text.digits n.natAbs).length ≤ 19 :=
    (Nat.length_toDigits_le_iff (by decide) (by decide)).mpr (by omega)
  rw [encode_int, List.length_append, List.length_map]
  split
  · rw [List.length_singleton]
    omega
  · rw [List.length_nil]
    omega

theorem numeral_char (c : Char) (numeral : c = '-' ∨ c = '.' ∨ c.isDigit = true) :
    ((escape c).flatMap String.utf8EncodeChar).length = 1 := by
  rcases numeral with rfl | rfl | digit
  · rfl
  · rfl
  · have all : ∀ n < 58, (Char.ofNat n).isDigit = true →
        ((escape (Char.ofNat n)).flatMap String.utf8EncodeChar).length = 1 := by
      decide
    have own := all c.toNat (Nat.lt_succ_of_le (Text.digit_range c digit).2)
    rw [Char.ofNat_toNat] at own
    exact own digit

theorem decimal_size (d : Decimal) : (encode (textJson d.toText)).length ≤ 33 := by
  have chars : d.toText.toList = d.text := String.toList_ofList
  have plain := d.printed.text_chars
  have size := d.text_size
  rw [Decimal.printed_text] at plain
  have bytes : ((d.text.flatMap escape).flatMap String.utf8EncodeChar).length = d.text.length := by
    generalize d.text = text at plain
    induction text with
    | nil => rfl
    | cons c text ih =>
        rw [List.flatMap_cons, List.flatMap_append, List.length_append, numeral_char c (plain c List.mem_cons_self),
          ih fun other member => plain other (List.mem_cons_of_mem c member), List.length_cons, Nat.add_comm]
  rw [encode_text, chars, List.length_cons, List.length_append, bytes, List.length_singleton]
  omega

theorem following_short (parts : List String) (most : Nat) (room : ∀ part ∈ parts, (encode part).length ≤ most) :
    (following parts).length ≤ (most + 1) * parts.length := by
  induction parts with
  | nil => exact Nat.zero_le _
  | cons part parts ih =>
      have own := room part List.mem_cons_self
      have others := ih fun other member => room other (List.mem_cons_of_mem part member)
      have size := following_size part parts 0
      have comma : (lead false).length = 1 := rfl
      rw [List.length_cons, Nat.mul_succ]
      omega

theorem object_short (members : List (String × String)) (most : Nat)
    (room : ∀ m ∈ members, (encode (textJson m.1)).length + (encode m.2).length < most) :
    (encode (objectJson members)).length ≤ (most + 1) * members.length + 2 := by
  have parts : ∀ part ∈ members.map fun m => memberJson m.1 m.2, (encode part).length ≤ most := by
    intro part member
    obtain ⟨m, among, rfl⟩ := List.mem_map.mp member
    have own := room m among
    have colon : (encode ":").length = 1 := by decide
    rw [memberJson, Text.encode_append, Text.encode_append, List.length_append, List.length_append]
    omega
  have within : (encode (",".intercalate (members.map fun m => memberJson m.1 m.2))).length ≤
      (most + 1) * members.length := by
    cases members with
    | nil => exact Nat.zero_le _
    | cons m members =>
        rw [List.map_cons] at parts ⊢
        have first := parts _ List.mem_cons_self
        have others := following_short _ most fun part member => parts part (List.mem_cons_of_mem _ member)
        rw [List.length_map] at others
        rw [encode_intercalate, List.length_append, List.length_cons, Nat.mul_succ]
        omega
  have brackets : (encode "\x7b").length = 1 ∧ (encode "\x7d").length = 1 := by decide
  have pieces : objectJson members =
      "\x7b" ++ ",".intercalate (members.map fun m => memberJson m.1 m.2) ++ "\x7d" := rfl
  rw [pieces, Text.encode_append, Text.encode_append, List.length_append, List.length_append]
  omega

end Json

namespace LoadTest

open Http (Request AccountRequest TransferRequest)
open Json (intJson textJson readInt64 readText)

theorem request_announced (p : Plan) : (p.request.header? "content-type").any Http.announcesJson = true := by
  change (Request.header? ⟨"", "", [Http.Response.jsonHeader], []⟩ "content-type").any Http.announcesJson = true
  decide +kernel

theorem body_read (p : Plan) (read : Json.Reader Json.Datum) (value : Json.Datum)
    (short : (encode p.body).length ≤ Http.bodyLimit) (taken : Json.Takes read p.body value) :
    Http.readBody p.request read = .ok value := by
  have fits : ¬ Http.bodyLimit < p.request.body.length := Nat.not_lt.mpr short
  rw [Http.readBody, request_announced, if_neg fits, Plan.request, Json.read_written _ _ _ taken]
  rfl

section Openings

variable (id : AccountId) (o : Opening) (fits : Text.isInt64 id = true)

include fits

theorem opening_short : (encode (openAccount id o).body).length ≤ Http.bodyLimit := by
  have number := Json.int_size id fits
  have balance := Json.decimal_size o.balance
  have names : (encode (textJson "account_id")).length ≤ 20 ∧ (encode (textJson "initial_balance")).length ≤ 20 := by decide
  refine Nat.le_trans (Json.object_short _ 60 ?_) (Nat.le_of_ble_eq_true rfl)
  simp only [List.forall_mem_cons, List.not_mem_nil, false_implies, implies_true, and_true]
  omega

theorem opening_opens : (openAccount id o).request.Opens ⟨some id, some o.balance.toText⟩ := by
  have distinct : (AccountRequest.fields.map Json.Field.name).Nodup := by decide
  have taken : Json.Takes AccountRequest.read (openAccount id o).body (.record [.int id, .text o.balance.toText]) := by
    refine Json.record_takes "AccountCreationRequest"
      [⟨⟨"account_id", true, Json.readOptional readInt64⟩, intJson id, .int id⟩,
        ⟨⟨"initial_balance", true, Json.readOptional readText⟩, textJson o.balance.toText, .text o.balance.toText⟩]
      ?_ distinct
    simp only [List.forall_mem_cons, List.not_mem_nil, false_implies, implies_true, and_true]
    refine ⟨?_, ?_⟩
    · exact Json.optional_takes _ _ _ (Json.int_takes id fits) (Json.int_opens id)
    · exact Json.optional_takes _ _ _ (Json.text_takes _) (Json.text_opens _)
  exact ⟨rfl, Http.accounts_path _ rfl, _, body_read _ _ _ (opening_short id o fits) taken, rfl⟩

end Openings

section Transfers

variable (source destination : AccountId)
  (fits : Text.isInt64 source = true ∧ Text.isInt64 destination = true)

include fits

theorem transfer_short : (encode (makeTransfer source destination).body).length ≤ Http.bodyLimit := by
  have from_ := Json.int_size source fits.1
  have to_ := Json.int_size destination fits.2
  have names : (encode (textJson "amount")).length ≤ 30 ∧ (encode (textJson "destination_account_id")).length ≤ 30 ∧
      (encode (textJson "source_account_id")).length ≤ 30 ∧ (encode (textJson transferAmount)).length ≤ 20 := by
    decide
  refine Nat.le_trans (Json.object_short _ 60 ?_) (Nat.le_of_ble_eq_true rfl)
  simp only [List.forall_mem_cons, List.not_mem_nil, false_implies, implies_true, and_true]
  omega

-- The members stand in the order of their names, which is not that of the fields.
theorem transfer_transfers : (makeTransfer source destination).request.Transfers
    ⟨some source, some destination, some transferAmount⟩ := by
  let members : List Json.Member :=
    [⟨⟨"source_account_id", true, Json.readOptional readInt64⟩, intJson source, .int source⟩,
      ⟨⟨"destination_account_id", true, Json.readOptional readInt64⟩, intJson destination, .int destination⟩,
      ⟨⟨"amount", true, Json.readOptional readText⟩, textJson transferAmount, .text transferAmount⟩]
  have distinct : (TransferRequest.fields.map Json.Field.name).Nodup := by decide
  have reads : ∀ m ∈ members, Json.Takes m.field.read m.text m.value := by
    simp only [members, List.forall_mem_cons, List.not_mem_nil, false_implies, implies_true, and_true]
    refine ⟨?_, ?_, ?_⟩
    · exact Json.optional_takes _ _ _ (Json.int_takes source fits.1) (Json.int_opens source)
    · exact Json.optional_takes _ _ _ (Json.int_takes destination fits.2) (Json.int_opens destination)
    · exact Json.optional_takes _ _ _ (Json.text_takes _) (Json.text_opens _)
  have taken : Json.Takes TransferRequest.read (makeTransfer source destination).body
      (.record [.int source, .int destination, .text transferAmount]) :=
    Json.record_takes_shuffled "TransactionRequest" members members.reverse (List.reverse_perm _) reads distinct
  exact ⟨rfl, Http.transactions_path _ rfl, _, body_read _ _ _ (transfer_short source destination fits) taken, rfl⟩

end Transfers

end LoadTest
end DoubleEntry
