import DoubleEntry.Proofs.Json.Written

/-!
Objects of texts. All members of such an object are read, whatever their names, in the order in which they stand; so what is
read of an object that was written is exactly what it was written from.
-/

set_option autoImplicit false

namespace DoubleEntry.Json

open Text (Bytes encode)

def readString : Reader String := atValue fun b c =>
  if b == byte '"' then readTextBody c.next else wrongType "a string" c

def readTextMembers : Nat → Bool → Cursor → Outcome (List (String × String) × Cursor)
  | 0, _, c => c.fail .endInObject
  | fuel + 1, first, c => do
    let (more, c) ← c.nextKey first
    if more then
      let (name, c) ← readTextBody c.next
      let (value, c) ← readString (← c.colon)
      let (members, c) ← readTextMembers fuel false c
      return ((name, value) :: members, c)
    else return ([], c)

def readTexts : Reader (List (String × String)) := atValue fun b c =>
  if b == byte '\x7b' then do
    let (members, c) ← readTextMembers (c.rest.length + 1) true c.next
    return (members, ← c.endObject)
  else wrongType "an object" c

-- The members of an object of texts, if that is all that the input holds.
def texts? (input : String) : Option (List (String × String)) :=
  match readTexts (Cursor.start (encode input)) with
  | .ok (members, c) => if c.skipBlanks.rest.isEmpty then some members else none
  | .error _ => none

def textMember (pair : String × String) : Member := ⟨⟨pair.1, false, readText⟩, textJson pair.2, .text pair.2⟩

theorem string_takes (s : String) : Takes readString (textJson s) s := by
  intro rest index _
  have body := text_body s rest index
  obtain ⟨more, bytes⟩ : ∃ more, encode (textJson s) ++ rest = byte '"' :: more :=
    ⟨_, by rw [encode_text]; rfl⟩
  rw [bytes] at body ⊢
  rw [readString, at_value _ _ _ _ (by decide), if_pos (by decide), body]

section Objects

variable (rest : Bytes)

theorem text_member_taken (pair : String × String) (fuel index : Nat) (first : Bool) (more : Bytes) (breaks : Breaks more) :
    readTextMembers (fuel + 1) first ⟨lead first ++ (encode (textMember pair).shown ++ more), index⟩ =
      (readTextMembers fuel false ⟨more, index + (lead first).length + (encode (textMember pair).shown).length⟩).map
        fun found => (pair :: found.1, found.2) := by
  have key := text_body pair.1 (byte ':' :: (encode (textJson pair.2) ++ more)) (index + (lead first).length)
  have colon : ∀ at_, (Cursor.mk (byte ':' :: (encode (textJson pair.2) ++ more)) at_).colon =
      .ok ⟨encode (textJson pair.2) ++ more, at_ + 1⟩ := fun _ => rfl
  have whole := encode_member (textMember pair) more
  simp only [textMember] at whole
  rw [← whole] at key
  rw [readTextMembers, key_ahead, member_size]
  simp only [textMember, bind, Except.bind, if_true, key, colon, string_takes pair.2 more _ breaks]
  cases readTextMembers fuel false ⟨more, index + (lead first).length + (encode (textJson pair.1)).length + 1 +
    (encode (textJson pair.2)).length⟩ <;> rfl

theorem texts_following (pairs : List (String × String)) (fuel index : Nat) (enough : pairs.length < fuel) :
    readTextMembers fuel false
        ⟨following (pairs.map fun pair => (textMember pair).shown) ++ byte '\x7d' :: rest, index⟩ =
      .ok (pairs, ⟨byte '\x7d' :: rest,
        index + (following (pairs.map fun pair => (textMember pair).shown)).length⟩) := by
  obtain ⟨n, rfl⟩ := Nat.exists_eq_succ_of_ne_zero (Nat.ne_zero_of_lt enough)
  induction pairs generalizing n index with
  | nil => rfl
  | cons pair pairs ih =>
      obtain ⟨n, rfl⟩ := Nat.exists_eq_succ_of_ne_zero (Nat.ne_zero_of_lt (Nat.lt_of_succ_lt_succ enough))
      have first := text_member_taken pair n.succ index false
        (following (pairs.map fun pair => (textMember pair).shown) ++ byte '\x7d' :: rest)
        (following_breaks _ _ rest (.inr rfl))
      rw [ih _ n (Nat.lt_of_succ_lt_succ enough)] at first
      rw [List.map_cons, following_cons, following_size]
      exact first

theorem texts_taken (pairs : List (String × String)) (fuel index : Nat) (enough : pairs.length < fuel) :
    readTextMembers fuel true
        ⟨encode (",".intercalate (pairs.map fun pair => (textMember pair).shown)) ++ byte '\x7d' :: rest, index⟩ =
      .ok (pairs, ⟨byte '\x7d' :: rest,
        index + (encode (",".intercalate (pairs.map fun pair => (textMember pair).shown))).length⟩) := by
  obtain ⟨n, rfl⟩ := Nat.exists_eq_succ_of_ne_zero (Nat.ne_zero_of_lt enough)
  cases pairs with
  | nil => rfl
  | cons pair pairs =>
      have first := text_member_taken pair n index true
        (following (pairs.map fun pair => (textMember pair).shown) ++ byte '\x7d' :: rest)
        (following_breaks _ _ rest (.inr rfl))
      rw [texts_following rest pairs n _ (Nat.lt_of_succ_lt_succ enough), lead_first, lead_first_size, Nat.add_zero] at first
      rw [List.map_cons, encode_intercalate, List.append_assoc, List.length_append, ← Nat.add_assoc]
      exact first

end Objects

theorem texts_takes (pairs : List (String × String)) :
    Takes readTexts (objectJson (pairs.map fun pair => (pair.1, textJson pair.2))) pairs := by
  intro rest index _
  have members : (pairs.map fun pair => (pair.1, textJson pair.2)) =
      (pairs.map textMember).map fun m => (m.field.name, m.text) := by
    rw [List.map_map]
    rfl
  have parts : (pairs.map textMember).map Member.shown = pairs.map fun pair => (textMember pair).shown := by
    rw [List.map_map]
    rfl
  have long := intercalate_length (pairs.map fun pair => (textMember pair).shown)
  have size := congrArg List.length (encode_object (pairs.map textMember) [])
  rw [List.length_map] at long
  simp only [parts, List.append_nil, List.length_cons, List.length_append, List.length_nil] at size
  rw [members, encode_object, parts, readTexts, at_value _ _ _ _ (by decide), if_pos (by decide), size]
  have taken := texts_taken rest pairs
    ((encode (",".intercalate (pairs.map fun pair => (textMember pair).shown)) ++ byte '\x7d' :: rest).length + 2)
    (index + 1) (by
      rw [List.length_append]
      omega)
  simp only [bind, Except.bind]
  rw [next_ahead, List.length_cons, taken]
  simp only
  rw [Nat.add_right_comm]
  rfl

/-- An object of texts is read as the members that it was written from, and no others. -/
theorem texts_written (pairs : List (String × String)) :
    texts? (objectJson (pairs.map fun pair => (pair.1, textJson pair.2))) = some pairs := by
  have taken := texts_takes pairs [] 0 (by rintro b ⟨⟩)
  rw [List.append_nil] at taken
  rw [texts?, Cursor.start, taken]
  rfl

end DoubleEntry.Json
