import Mathlib

/-!
Texts that are taken apart at a character: this is the splitting of the list of characters.
-/

set_option autoImplicit false

namespace DoubleEntry.Text

open String (utf8Len Pos)

section Steps

variable (c : Char) (before rest : List Char) (start : Pos.Raw) (parts : List String)

theorem split_ends : (String.ofList before).splitOnAux (String.ofList [c]) start ⟨utf8Len before⟩ 0 parts =
    parts.reverse ++ [Pos.Raw.extract (String.ofList before) start ⟨utf8Len before⟩] := by
  have ends := (String.atEnd_of_valid before []).mpr rfl
  rw [List.append_nil] at ends
  rw [String.splitOnAux, ends]
  simp

theorem split_goes_on : Pos.Raw.atEnd (String.ofList (before ++ c :: rest)) ⟨utf8Len before⟩ = false :=
  eq_false_of_ne_true (mt (String.atEnd_of_valid before (c :: rest)).mp (List.cons_ne_nil c rest))

theorem split_passes (d : Char) (other : d ≠ c) :
    (String.ofList (before ++ d :: rest)).splitOnAux (String.ofList [c]) start ⟨utf8Len before⟩ 0 parts =
      (String.ofList (before ++ d :: rest)).splitOnAux (String.ofList [c]) start ⟨utf8Len (before ++ [d])⟩ 0
        parts := by
  have first : Pos.Raw.get (String.ofList [c]) 0 = c := String.get_of_valid [] [c]
  have back : (⟨utf8Len before⟩ : Pos.Raw).unoffsetBy 0 = ⟨utf8Len before⟩ := rfl
  rw [String.splitOnAux, split_goes_on, String.get_of_valid, first, back, String.next_of_valid]
  simp [other]

theorem split_cuts :
    (String.ofList (before ++ c :: rest)).splitOnAux (String.ofList [c]) start ⟨utf8Len before⟩ 0 parts =
      (String.ofList (before ++ c :: rest)).splitOnAux (String.ofList [c]) ⟨utf8Len (before ++ [c])⟩
        ⟨utf8Len (before ++ [c])⟩ 0
        (Pos.Raw.extract (String.ofList (before ++ c :: rest)) start ⟨utf8Len before⟩ :: parts) := by
  have first : Pos.Raw.get (String.ofList [c]) 0 = c := String.get_of_valid [] [c]
  have second : Pos.Raw.next (String.ofList [c]) 0 = ⟨c.utf8Size⟩ := by
    have next := String.next_of_valid [] c []
    rwa [String.utf8Len_nil, Nat.zero_add] at next
  have whole : Pos.Raw.atEnd (String.ofList [c]) ⟨c.utf8Size⟩ = true := by
    have ends := (String.atEnd_of_valid [c] []).mpr rfl
    rwa [String.utf8Len_cons, String.utf8Len_nil, Nat.zero_add] at ends
  have back : (⟨utf8Len before + c.utf8Size⟩ : Pos.Raw).unoffsetBy ⟨c.utf8Size⟩ = ⟨utf8Len before⟩ := by
    simp [Pos.Raw.unoffsetBy]
  rw [String.splitOnAux, split_goes_on, String.get_of_valid, first, second, String.next_of_valid]
  simp [whole, back, -String.ofList_append, -String.ofList_cons]

end Steps

theorem part_between (before found rest : List Char) :
    Pos.Raw.extract (String.ofList (before ++ found ++ rest)) ⟨utf8Len before⟩ ⟨utf8Len (before ++ found)⟩ =
      String.ofList found := by
  rw [String.utf8Len_append]
  exact String.extract_of_valid before found rest

theorem split_list (c : Char) (before found rest : List Char) (parts : List String) :
    (String.ofList (before ++ found ++ rest)).splitOnAux (String.ofList [c]) ⟨utf8Len before⟩
        ⟨utf8Len (before ++ found)⟩ 0 parts =
      parts.reverse ++ (List.splitOnPPrepend (· == c) rest found.reverse).map String.ofList := by
  have part := part_between before found
  induction rest generalizing before found parts with
  | nil =>
      have part := part []
      rw [List.append_nil] at part ⊢
      rw [split_ends, part]
      simp
  | cons d rest ih =>
      by_cases same : d = c
      · subst same
        have later := ih (before ++ found ++ [d]) [] (String.ofList found :: parts) (part_between _ _)
        have text : before ++ found ++ d :: rest = before ++ found ++ [d] ++ rest := by simp
        rw [List.append_nil (before ++ found ++ [d])] at later
        rw [split_cuts, part, text, later, List.splitOnPPrepend_cons_pos (by simp), List.reverse_reverse]
        simp
      · have later := ih before (found ++ [d]) parts (part_between _ _)
        have text : before ++ found ++ d :: rest = before ++ (found ++ [d]) ++ rest := by simp
        have reached : before ++ found ++ [d] = before ++ (found ++ [d]) := List.append_assoc _ _ _
        rw [split_passes _ _ _ _ _ d same, text, reached, later, List.splitOnPPrepend_cons_neg (by simpa using same),
          List.reverse_append]
        rfl

theorem split_char (s : String) (c : Char) : s.splitOn (String.ofList [c]) = (s.toList.splitOn c).map String.ofList := by
  have parts := split_list c [] [] s.toList []
  have some : (String.ofList [c] == "") = false := by simp
  rw [List.nil_append, List.nil_append, String.ofList_toList] at parts
  rw [String.splitOn, some, if_neg Bool.false_ne_true]
  exact parts

end DoubleEntry.Text
