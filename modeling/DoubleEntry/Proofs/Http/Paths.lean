import DoubleEntry.Http.Router
import DoubleEntry.Proofs.Text.Digits
import DoubleEntry.Proofs.Text.Split

/-!
Targets of requests that are plain paths. They come apart at the slashes, and a number in one of their parts is read as
it was written.
-/

set_option autoImplicit false

namespace DoubleEntry.Http

-- What has a meaning of its own in a target.
def targetMarks : List Char := ['/', '#', '?', ':', '%']

-- A target that starts with a slash is a path up to its query or its fragment, whatever else is in it.
theorem origin_path (text : String) (origin : text.toList.head? = some '/') :
    (Target.ofText text).path = String.ofList ((text.toList.takeWhile (· != '#')).takeWhile (· != '?')) := by
  obtain ⟨rest, shape⟩ := List.head?_eq_some_iff.mp origin
  rw [Target.ofText, shape, List.takeWhile_cons_of_pos (by decide), List.takeWhile_cons_of_pos (by decide)]
  rfl

example : (Target.ofText "/x://h/accounts").path = "/x://h/accounts" := by decide

section Targets

variable (parts : List String) (plain : ∀ part ∈ parts, ∀ c ∈ part.toList, c ∉ targetMarks)

include plain

theorem target_segments (nonempty : parts ≠ []) : segments ("/".intercalate parts) = parts := by
  have slash : ∀ part ∈ parts.map String.toList, '/' ∉ part := by
    intro chars among within
    obtain ⟨part, member, rfl⟩ := List.mem_map.mp among
    exact plain part member '/' within (by decide)
  have apart := List.splitOn_intercalate '/' slash (by simpa using nonempty)
  have cut := Text.split_char ("/".intercalate parts) '/'
  rw [String.toList_intercalate, show "/".toList = ['/'] from rfl, apart, List.map_map] at cut
  rw [segments, show "/" = String.ofList ['/'] from rfl, cut]
  simp [Function.comp_def]

theorem target_unmarked (mark : Char) (other : mark ≠ '/') (among : mark ∈ targetMarks) :
    mark ∉ ("/".intercalate parts).toList := by
  induction parts with
  | nil => simp
  | cons part rest ih =>
      have own : mark ∉ part.toList := fun within => plain part List.mem_cons_self mark within among
      have later := ih fun p member => plain p (List.mem_cons_of_mem part member)
      cases rest with
      | nil => rwa [String.intercalate_singleton]
      | cons next more =>
          rw [String.intercalate_cons_cons, String.toList_append, String.toList_append, List.mem_append, List.mem_append,
            not_or, not_or]
          exact ⟨⟨own, by simpa using other⟩, later⟩

theorem target_path (r : Request) (origin : r.target.toList.head? = some '/') (target : r.target = "/".intercalate parts) :
    r.path = r.target := by
  have absent := target_unmarked parts plain
  rw [← target] at absent
  have kept : ∀ mark, mark ∉ r.target.toList → r.target.toList.takeWhile (· != mark) = r.target.toList := by
    intro mark unmarked
    refine List.takeWhile_eq_self_iff.mpr fun c member => bne_iff_ne.mpr ?_
    rintro rfl
    exact unmarked member
  have bare := kept '#' (absent '#' (by decide) (by decide))
  have place := kept '?' (absent '?' (by decide) (by decide))
  rw [Request.path, origin_path r.target origin, bare, place, String.ofList_toList]

end Targets

theorem percent_plain (chars : List Char) (unescaped : '%' ∉ chars) :
    percentDecode chars = chars.flatMap String.utf8EncodeChar := by
  induction chars with
  | nil => rfl
  | cons c rest ih =>
      rw [List.mem_cons, not_or] at unescaped
      rw [percentDecode, ih unescaped.2, List.flatMap_cons]
      rintro _ _ _ rfl
      exact absurd rfl unescaped.1

section Numbers

variable (id : AccountId) (positive : 1 ≤ id)

include positive

theorem positive_digits : (toString id).toList = Text.digits id.toNat := by
  obtain ⟨n, rfl⟩ := Int.eq_ofNat_of_zero_le (Int.le_trans (by decide) positive)
  exact Nat.toList_repr

theorem number_plain : ∀ c ∈ (toString id).toList, c ∉ targetMarks := by
  rw [positive_digits id positive]
  intro c member marked
  have digit := Text.digits_digit _ c member
  have apart : ∀ mark ∈ targetMarks, mark.isDigit = false := by simp [targetMarks]
  rw [apart c marked] at digit
  cases digit

theorem path_id_read (fits : Text.isInt64 id = true) : pathId (toString id) = .ok id := by
  have unescaped : '%' ∉ (toString id).toList := fun member => number_plain id positive '%' member (by decide)
  have decoded : decodeParam? (toString id) = some (toString id) := by
    rw [decodeParam?, percent_plain _ unescaped, ← Text.encode_chars, Text.decode_encode]
  have number : Text.int? (toString id).toList = some id := by
    rw [positive_digits id positive, Text.int_digits]
    exact congrArg some (Int.toNat_of_nonneg (Int.le_trans (by decide) positive))
  rw [pathId, decoded, Option.bind_some, Text.int64?, number]
  rw [Option.filter_some, if_pos fits, Option.filter_some, if_pos (decide_eq_true positive)]

end Numbers

section Routes

variable (r : Request)

theorem plain_target (parts : List String) (nonempty : parts ≠ [])
    (plain : ∀ part ∈ parts, ∀ c ∈ part.toList, c ∉ targetMarks) (origin : r.target.toList.head? = some '/')
    (target : r.target = "/".intercalate parts) : segments r.path = parts := by
  rw [target_path parts plain r origin target, target, target_segments parts plain nonempty]

theorem names_plain : ∀ part ∈ ["", "accounts", "entries", "transactions"], ∀ c ∈ part.toList, c ∉ targetMarks := by
  simp [targetMarks]

theorem accounts_path (target : r.target = "/accounts") : Route.ofPath? r.path = some .accounts := by
  have plain : ∀ part ∈ ["", "accounts"], ∀ c ∈ part.toList, c ∉ targetMarks := fun part among =>
    names_plain part (List.Sublist.subset (by decide) among)
  rw [Route.ofPath?, plain_target r _ (by simp) plain (by simp [target]) target]
  rfl

theorem transactions_path (target : r.target = "/transactions") : Route.ofPath? r.path = some .transactions := by
  have plain : ∀ part ∈ ["", "transactions"], ∀ c ∈ part.toList, c ∉ targetMarks := fun part among =>
    names_plain part (List.Sublist.subset (by decide) among)
  rw [Route.ofPath?, plain_target r _ (by simp) plain (by simp [target]) target]
  rfl

variable (id : AccountId) (positive : 1 ≤ id)

include positive

theorem balance_path (target : r.target = "/accounts/" ++ toString id) :
    Route.ofPath? r.path = some (.balance (toString id)) := by
  have plain : ∀ part ∈ ["", "accounts", toString id], ∀ c ∈ part.toList, c ∉ targetMarks := by
    simp only [List.forall_mem_cons, List.not_mem_nil, false_implies, implies_true, and_true]
    exact ⟨names_plain _ (by simp), names_plain _ (by simp), number_plain id positive⟩
  have joined : r.target = "/".intercalate ["", "accounts", toString id] := by
    rw [target]
    apply String.toList_inj.mp
    simp
  have some : (toString id).isEmpty = false := by
    apply eq_false_of_ne_true
    rw [String.isEmpty_iff, ← String.toList_eq_nil_iff, positive_digits id positive]
    exact Nat.toDigits_ne_nil
  rw [Route.ofPath?, plain_target r _ (by simp) plain (by simp [target]) joined]
  simp only [some, Bool.false_eq_true, if_false]

theorem entries_path (target : r.target = "/accounts/" ++ toString id ++ "/entries") :
    Route.ofPath? r.path = some (.entries (toString id)) := by
  have plain : ∀ part ∈ ["", "accounts", toString id, "entries"], ∀ c ∈ part.toList, c ∉ targetMarks := by
    simp only [List.forall_mem_cons, List.not_mem_nil, false_implies, implies_true, and_true]
    exact ⟨names_plain _ (by simp), names_plain _ (by simp), number_plain id positive, names_plain _ (by simp)⟩
  have joined : r.target = "/".intercalate ["", "accounts", toString id, "entries"] := by
    rw [target]
    apply String.toList_inj.mp
    simp
  rw [Route.ofPath?, plain_target r _ (by simp) plain (by simp [target]) joined]
  rfl

end Routes

end DoubleEntry.Http
