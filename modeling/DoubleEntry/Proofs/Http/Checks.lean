import DoubleEntry.Proofs.Http.Rejection
import DoubleEntry.Proofs.Json.Yields
import Mathlib

/-!
The checks of what is written in a body. Each of them looks at the fields by itself; a request is answered with what the
first of them finds.
-/

set_option autoImplicit false

namespace DoubleEntry

open Ledger (Operation)

namespace Json

section Records

def anyColumn (field : Field) : Column := ⟨field, fun _ => True, fun _ _ _ _ => trivial, fun _ => trivial⟩

theorem record_read (name : String) (fields : List Field) (c after : Cursor) (d : Datum)
    (result : readRecord name fields c = .ok (d, after)) :
    ∃ values, d = .record values ∧ values.length = fields.length := by
  have columns : (fields.map anyColumn).map Column.field = fields := by
    rw [List.map_map]
    exact List.map_id fields
  rw [← columns] at result
  obtain ⟨values, own, good⟩ := record_yields (fields.map anyColumn) name c d after result
  exact ⟨values, own, by rw [← good.length_eq, List.length_map]⟩

end Records
end Json

namespace Http

section Bodies

variable (r : Request) (d : Json.Datum)

theorem body_record (name : String) (fields : List Json.Field) (read : readBody r (Json.readRecord name fields) = .ok d) :
    ∃ values, d = .record values ∧ values.length = fields.length := by
  rw [readBody] at read
  split at read
  · cases read
  · split at read
    · cases read
    · rw [Json.readAll] at read
      cases result : Json.readRecord name fields (Json.Cursor.start r.body) with
      | error e =>
          simp only [result, bind, Except.bind, Except.mapError] at read
          cases read
      | ok found =>
          obtain ⟨own, after⟩ := found
          simp only [result, bind, Except.bind] at read
          split at read
          · cases read
            exact Json.record_read name fields _ after _ result
          · cases read

theorem account_decoded (read : readBody r AccountRequest.read = .ok d) :
    ∃ b, AccountRequest.ofDatum? d = some b := by
  obtain ⟨values, rfl, length⟩ := body_record r d _ AccountRequest.fields read
  match values, length with
  | [id, balance], _ => exact ⟨_, rfl⟩

theorem transfer_decoded (read : readBody r TransferRequest.read = .ok d) :
    ∃ b, TransferRequest.ofDatum? d = some b := by
  obtain ⟨values, rfl, length⟩ := body_record r d _ TransferRequest.fields read
  match values, length with
  | [source, destination, amount], _ => exact ⟨_, rfl⟩

end Bodies

variable {α : Type}

theorem id_required (field : String) (id? : Option Int) (id : AccountId) (required : requireId field id? = .ok id) :
    id? = some id := by
  cases id? with
  | none => cases required
  | some found =>
      rw [requireId] at required
      split at required
      · cases required
        rfl
      · cases required

section Posts

variable (r : Request) (posted : r.method = "POST") (d : Json.Datum)

include posted

end Posts

section Problems

-- A check that finds nothing but faults of the request.
def Validates (c : Checked α) : Prop := ∀ e, c = .error e → ∃ detail, e = .validation detail

theorem validates_bind {β : Type} (c : Checked α) (f : α → Checked β) (first : Validates c)
    (second : ∀ a, c = .ok a → Validates (f a)) : Validates (c.bind f) := by
  intro e failed
  cases c with
  | error _ =>
      cases failed
      exact first _ rfl
  | ok a => exact second a rfl e failed

theorem require_id_validates (field : String) (id? : Option Int) : Validates (requireId field id?) := by
  intro e failed
  cases id? with
  | none =>
      cases failed
      exact ⟨_, rfl⟩
  | some id =>
      rw [requireId] at failed
      split at failed <;> cases failed
      exact ⟨_, rfl⟩

theorem map_error_validates {ε : Type} (x : Except ε α) (told : ε → String) :
    Validates (x.mapError fun e => AppError.validation (told e)) := by
  intro e failed
  cases x with
  | ok a => cases failed
  | error own =>
      cases failed
      exact ⟨_, rfl⟩

theorem require_amount_validates (field : String) (text? : Option String) : Validates (requireAmount field text?) := by
  cases text? with
  | none =>
      intro e failed
      cases failed
      exact ⟨_, rfl⟩
  | some text => exact map_error_validates (Amount.parse text) _

theorem ok_validates (a : α) : Validates (.ok a) := by
  intro e impossible
  cases impossible

theorem decode_validates {β : Type} (r : Request) (read : Json.Reader Json.Datum) (ofDatum? : Json.Datum → Option α)
    (check : α → Checked β) (decoded : ∀ d, readBody r read = .ok d → ∃ a, ofDatum? d = some a)
    (checks : ∀ a, Validates (check a)) : Validates (decodeBody r read ofDatum? check) := by
  refine validates_bind _ _ (map_error_validates _ _) ?_
  intro d result
  cases found : readBody r read with
  | error e =>
      rw [found] at result
      cases result
  | ok own =>
      rw [found] at result
      cases result
      obtain ⟨a, known⟩ := decoded d found
      simp only [known]
      exact checks a

theorem decode_account_validates (r : Request) : Validates (decodeAccount r) := by
  refine decode_validates r _ _ _ (account_decoded r) fun b => ?_
  refine validates_bind _ _ (require_id_validates _ _) fun id _ => ?_
  exact validates_bind _ _ (require_amount_validates _ _) fun amount _ => ok_validates _

theorem decode_transfer_validates (r : Request) : Validates (decodeTransfer r) := by
  refine decode_validates r _ _ _ (transfer_decoded r) fun b => ?_
  refine validates_bind _ _ (require_id_validates _ _) fun source _ => ?_
  refine validates_bind _ _ (require_id_validates _ _) fun destination _ => ?_
  exact validates_bind _ _ (require_amount_validates _ _) fun amount _ => ok_validates _

theorem path_id_validates (raw : String) : Validates (pathId raw) := by
  intro e failed
  rw [pathId] at failed
  split at failed <;> cases failed
  exact ⟨_, rfl⟩

theorem input_rejection (c : Checked α) (o : α → Operation) (validates : Validates c) (x : Response)
    (problem : inputProblem? c o = some x) : x.IsRejection := by
  cases c with
  | error e =>
      obtain ⟨detail, rfl⟩ := validates e rfl
      cases problem
      exact ⟨_, by simp [AppError.code, rejectionCodes], _, rfl⟩
  | ok a =>
      obtain ⟨e, rejected, rfl⟩ := Option.map_eq_some_iff.mp problem
      exact Response.told_rejection e (Ledger.rejection_found (o a) e rejected)

theorem problem_rejection (r : Request) (x : Response) (problem : problem? r = some x) : x.IsRejection := by
  rw [problem?] at problem
  split at problem
  · cases problem
  · split at problem
    · cases problem
      exact ⟨_, by simp [AppError.code, rejectionCodes], _, rfl⟩
    · split at problem
      · cases problem
      · split at problem
        · cases problem
        · exact input_rejection _ _ (decode_account_validates r) x problem
        · exact input_rejection _ _ (path_id_validates _) x problem
        · exact input_rejection _ _ (path_id_validates _) x problem
        · exact input_rejection _ _ (decode_transfer_validates r) x problem

end Problems

end Http
end DoubleEntry
