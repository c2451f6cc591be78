import DoubleEntry.Json.Reader
import DoubleEntry.Proofs.Time.Text

/-!
What readers come to. However a value is spelt, all that is read of it is of its kind: a whole number of 64 bits, a moment of
UTC, a list of such, or a record with one value for each of its fields, in their order.
-/

set_option autoImplicit false

namespace DoubleEntry.Json

section Binding

variable {α β ε : Type}

theorem mapped_ok (x : Except ε α) (f : ε → β) (a : α) (result : x.mapError f = .ok a) : x = .ok a := by
  cases x with
  | ok b =>
      cases result
      rfl
  | error e => cases result

theorem wrong_type_fails (expected : String) (c : Cursor) (a : α) : wrongType expected c ≠ .ok a := by
  intro result
  rw [wrongType] at result
  split at result
  · cases result
  · repeat' split at result
    -- What is read first are words, numbers and texts.
    iterate 5
      · obtain ⟨_, _, failed⟩ := bound_ok _ _ _ result
        cases failed
    · cases result
    · cases result
    · cases result

end Binding

def Yields (read : Reader Datum) (good : Datum → Prop) : Prop := ∀ c d after, read c = .ok (d, after) → good d

theorem at_value_yields (read : UInt8 → Reader Datum) (good : Datum → Prop) (yields : ∀ b, Yields (read b) good) :
    Yields (atValue read) good := by
  intro c d after result
  rw [atValue] at result
  split at result
  · cases result
  · exact yields _ _ d after result

theorem read_all_yields (read : Reader Datum) (good : Datum → Prop) (yields : Yields read good) (input : Text.Bytes)
    (d : Datum) (result : readAll read input = .ok d) : good d := by
  obtain ⟨⟨own, after⟩, found, result⟩ := bound_ok _ _ _ result
  simp only at result
  split at result
  · cases result
    exact yields _ d after found
  · cases result

section Scalars

def IsInt (d : Datum) : Prop := ∃ n, d = .int n ∧ Text.isInt64 n = true

def IsText (d : Datum) : Prop := ∃ s, d = .text s

def IsDecimal (d : Datum) : Prop := ∃ amount, d = .decimal amount

def IsMoment (d : Datum) : Prop := ∃ m, d = .moment m ∧ m.IsUtc

theorem int_yields : Yields readInt64 IsInt := by
  apply at_value_yields
  intro b c d after result
  simp only at result
  split at result
  · obtain ⟨⟨number, next⟩, _, result⟩ := bound_ok _ _ _ result
    cases number with
    | integer n =>
        simp only at result
        split at result
        · next fits =>
            cases result
            exact ⟨n, rfl, fits⟩
        · cases result
    | float x => cases result
  · exact absurd result (wrong_type_fails _ _ _)

theorem text_as_yields (expected : String) (use : String → Cursor → Outcome Datum) (good : Datum → Prop)
    (yields : ∀ s c d, use s c = .ok d → good d) : Yields (readTextAs expected use) good := by
  apply at_value_yields
  intro b c d after result
  simp only at result
  split at result
  · obtain ⟨⟨s, next⟩, _, result⟩ := bound_ok _ _ _ result
    obtain ⟨own, used, result⟩ := bound_ok _ _ _ result
    cases result
    exact yields s next d used
  · exact absurd result (wrong_type_fails _ _ _)

theorem text_yields : Yields readText IsText := by
  apply text_as_yields
  intro s c d result
  cases result
  exact ⟨s, rfl⟩

theorem moment_yields : Yields readMoment IsMoment := by
  apply text_as_yields
  intro s c d result
  split at result
  · next m parsed =>
      cases result
      exact ⟨m, rfl, Time.Moment.parsed_utc s m parsed⟩
  · cases result

theorem decimal_yields : Yields readDecimal IsDecimal := by
  apply at_value_yields
  intro b c d after result
  simp only at result
  split at result
  · obtain ⟨⟨s, next⟩, _, result⟩ := bound_ok _ _ _ result
    simp only at result
    split at result
    · cases result
      exact ⟨_, rfl⟩
    · cases result
  · split at result
    · obtain ⟨⟨number, next⟩, _, result⟩ := bound_ok _ _ _ result
      simp only at result
      split at result
      · cases result
        exact ⟨_, rfl⟩
      · cases result
    · split at result
      · cases result
      · split at result
        · cases result
        · exact absurd result (wrong_type_fails _ _ _)

end Scalars

section Lists

variable (read : Reader Datum) (good : Datum → Prop) (yields : Yields read good)

include yields

theorem elements_yield (fuel count : Nat) (c after : Cursor) (items : List Datum)
    (result : readElements read fuel count c = .ok (items, after)) : ∀ item ∈ items, good item := by
  induction fuel generalizing count c items after with
  | zero => cases result
  | succ fuel ih =>
      obtain ⟨⟨more, next⟩, _, result⟩ := bound_ok _ _ _ result
      cases more with
      | false =>
          cases result
          exact List.forall_mem_nil good
      | true =>
          obtain ⟨⟨item, behind⟩, first, result⟩ := bound_ok _ _ _ result
          obtain ⟨⟨others, last⟩, rest, result⟩ := bound_ok _ _ _ result
          cases result
          exact List.forall_mem_cons.mpr ⟨yields _ item behind (mapped_ok _ _ _ first), ih _ _ _ _ rest⟩

theorem list_yields : Yields (readList read) fun d => ∃ items, d = .list items ∧ ∀ item ∈ items, good item := by
  apply at_value_yields
  intro b c d after result
  simp only at result
  split at result
  · obtain ⟨⟨items, next⟩, elements, result⟩ := bound_ok _ _ _ result
    obtain ⟨last, _, result⟩ := bound_ok _ _ _ result
    cases result
    exact ⟨items, rfl, elements_yield read good yields _ _ _ next items elements⟩
  · exact absurd result (wrong_type_fails _ _ _)

end Lists

structure Column where
  field : Field
  good : Datum → Prop
  yields : Yields field.read good
  absent : field.optional = true → good .absent

section Records

-- What has been found of a column so far.
def Column.Held (column : Column) (found : Option Datum) : Prop := ∀ d, found = some d → column.good d

theorem none_held (columns : List Column) :
    List.Forall₂ Column.Held columns ((columns.map Column.field).map fun _ => none) := by
  induction columns with
  | nil => exact .nil
  | cons column columns ih => exact .cons (fun _ impossible => by cases impossible) ih

theorem held_set (columns : List Column) (values : List (Option Datum)) (held : List.Forall₂ Column.Held columns values)
    (i : Nat) (d : Datum) (own : ∀ column, columns[i]? = some column → column.good d) :
    List.Forall₂ Column.Held columns (values.set i (some d)) := by
  induction held generalizing i with
  | nil => exact .nil
  | cons first rest ih =>
      cases i with
      | zero =>
          refine .cons ?_ rest
          rintro _ ⟨⟩
          exact own _ rfl
      | succ i => exact .cons first (ih i fun column found => own column found)

theorem completed_yields (columns : List Column) (found : List (Option Datum)) (values : List Datum)
    (held : List.Forall₂ Column.Held columns found)
    (complete : completed (columns.map Column.field) found = .ok values) : List.Forall₂ Column.good columns values := by
  induction held generalizing values with
  | nil =>
      cases complete
      exact .nil
  | @cons column value columns found own rest ih =>
      have others : ∀ d : Datum, column.good d →
          ((completed (columns.map Column.field) found).bind fun others => .ok (d :: others)) = .ok values →
          List.Forall₂ Column.good (column :: columns) values := by
        intro d good result
        obtain ⟨later, restComplete, result⟩ := bound_ok _ _ values result
        cases result
        exact .cons good (ih later restComplete)
      rw [List.map_cons, completed] at complete
      simp only [List.head?_cons, Option.join_some, List.tail_cons] at complete
      split at complete
      · next d => exact others d (own d rfl) complete
      · split at complete
        · next optional => exact others .absent (column.absent optional) complete
        · cases complete

variable (columns : List Column)

theorem members_yield (fuel : Nat) (first : Bool) (values later : List (Option Datum)) (c after : Cursor)
    (held : List.Forall₂ Column.Held columns values)
    (result : readMembers (columns.map Column.field) fuel first values c = .ok (later, after)) :
    List.Forall₂ Column.Held columns later := by
  induction fuel generalizing first values c with
  | zero => cases result
  | succ fuel ih =>
      obtain ⟨⟨more, next⟩, _, result⟩ := bound_ok _ _ _ result
      cases more with
      | false =>
          cases result
          exact held
      | true =>
          obtain ⟨⟨key, behind⟩, _, result⟩ := bound_ok _ _ _ result
          simp only at result
          split at result
          · obtain ⟨skipped, _, result⟩ := bound_ok _ _ _ result
            exact ih _ _ _ held result
          · next i place =>
              split at result
              · cases result
              · obtain ⟨⟨d, last⟩, read, result⟩ := bound_ok _ _ _ result
                refine ih _ _ _ (held_set columns values held i d ?_) result
                intro column found
                obtain ⟨start, _, read⟩ := bound_ok _ _ _ (mapped_ok _ _ _ read)
                have own : (((columns.map Column.field).map Field.read).getD i readText) = column.field.read := by
                  rw [List.getD_eq_getElem?_getD, List.getElem?_map, List.getElem?_map, found]
                  rfl
                rw [own] at read
                exact column.yields _ d last read

theorem in_order_yields (expected : String) (count : Nat) (c after : Cursor) (values : List Datum)
    (result : readFieldsInOrder expected (columns.map Column.field) count c = .ok (values, after)) :
    List.Forall₂ Column.good columns values := by
  induction columns generalizing count c values after with
  | nil =>
      cases result
      exact .nil
  | cons column columns ih =>
      obtain ⟨⟨more, next⟩, _, result⟩ := bound_ok _ _ _ result
      cases more with
      | false => cases result
      | true =>
          obtain ⟨⟨d, behind⟩, first, result⟩ := bound_ok _ _ _ result
          obtain ⟨⟨others, last⟩, rest, result⟩ := bound_ok _ _ _ result
          cases result
          exact .cons (column.yields _ d behind (mapped_ok _ _ _ first)) (ih _ _ _ _ rest)

/-- A record is read with a good value for each of its fields, whether it is an object or a list. -/
theorem record_yields (name : String) : Yields (readRecord name (columns.map Column.field))
    fun d => ∃ values, d = .record values ∧ List.Forall₂ Column.good columns values := by
  apply at_value_yields
  intro b c d after result
  simp only at result
  split at result
  · obtain ⟨⟨found, next⟩, members, result⟩ := bound_ok _ _ _ result
    have held := members_yield columns _ _ _ found _ next (none_held columns) members
    cases complete : completed (columns.map Column.field) found with
    | error missing =>
        simp only [complete] at result
        cases result
    | ok values =>
        simp only [complete] at result
        obtain ⟨last, _, result⟩ := bound_ok _ _ _ result
        cases result
        exact ⟨values, rfl, completed_yields columns found values held complete⟩
  · split at result
    · obtain ⟨⟨values, next⟩, read, result⟩ := bound_ok _ _ _ result
      obtain ⟨last, _, result⟩ := bound_ok _ _ _ result
      cases result
      exact ⟨values, rfl, in_order_yields columns _ _ _ next values read⟩
    · exact absurd result (wrong_type_fails _ _ _)

end Records

end DoubleEntry.Json
