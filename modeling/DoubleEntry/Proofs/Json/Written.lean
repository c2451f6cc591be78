import DoubleEntry.Proofs.Json.Scalars

/-!
What is written as JSON is read back: with the texts and whole numbers, lists and records of what can be taken.
-/

set_option autoImplicit false

namespace DoubleEntry.Json

open Text (Bytes encode)

section Sequences

-- The comma before a part, unless it is the first.
def lead (first : Bool) : Bytes := if first then [] else [byte ',']

theorem lead_first (more : Bytes) : lead true ++ more = more := rfl

theorem lead_first_size : (lead true).length = 0 := rfl

-- Parts that follow another.
def following (parts : List String) : Bytes := parts.flatMap fun part => lead false ++ encode part

theorem following_cons (part : String) (parts : List String) (more : Bytes) :
    following (part :: parts) ++ more = lead false ++ (encode part ++ (following parts ++ more)) := by
  rw [following, List.flatMap_cons, List.append_assoc, List.append_assoc]
  rfl

theorem following_size (part : String) (parts : List String) (index : Nat) :
    index + (following (part :: parts)).length =
      index + (lead false).length + (encode part).length + (following parts).length := by
  rw [following, List.flatMap_cons, List.length_append, List.length_append, ← Nat.add_assoc, ← Nat.add_assoc]
  rfl

theorem encode_intercalate (part : String) (parts : List String) :
    encode (",".intercalate (part :: parts)) = encode part ++ following parts := by
  induction parts generalizing part with
  | nil => rw [String.intercalate_singleton, following, List.flatMap_nil, List.append_nil]
  | cons next parts ih =>
      rw [String.intercalate_cons_cons, Text.encode_append, Text.encode_append, ih, List.append_assoc]
      rfl

theorem following_length (parts : List String) : parts.length ≤ (following parts).length := by
  induction parts with
  | nil => exact Nat.le_refl 0
  | cons part parts ih =>
      have size := following_size part parts 0
      have comma : (lead false).length = 1 := rfl
      rw [List.length_cons]
      omega

theorem intercalate_length (parts : List String) : parts.length ≤ (encode (",".intercalate parts)).length + 1 := by
  cases parts with
  | nil => exact Nat.zero_le _
  | cons part parts =>
      have long := following_length parts
      rw [encode_intercalate, List.length_cons, List.length_append]
      omega

theorem following_breaks (parts : List String) (closing : UInt8) (rest : Bytes)
    (bracket : closing = byte ']' ∨ closing = byte '\x7d') : Breaks (following parts ++ closing :: rest) := by
  intro b first
  cases parts with
  | nil =>
      cases first
      exact .inr bracket
  | cons part parts =>
      cases first
      exact .inl rfl

end Sequences

section Lists

variable (read : Reader Datum) (rest : Bytes)

theorem element_ahead (text : String) (opens : Opens text) (first : Bool) (more : Bytes) (index : Nat) :
    (Cursor.mk (lead first ++ (encode text ++ more)) index).nextElement first =
      .ok (true, ⟨encode text ++ more, index + (lead first).length⟩) := by
  obtain ⟨b, tail, bytes, solid, bracket, _⟩ := opens
  rw [bytes, List.cons_append]
  cases first with
  | true =>
      change (Cursor.mk (b :: (tail ++ more)) index).nextElement true = _
      rw [Cursor.nextElement, solid_ahead b _ index solid]
      simp [Cursor.peek, bracket, lead]
  | false =>
      change (Cursor.mk (byte ',' :: b :: (tail ++ more)) index).nextElement false = _
      rw [Cursor.nextElement, solid_ahead (byte ',') _ index (by decide)]
      simp only [next_ahead, solid_ahead b _ _ solid]
      simp [Cursor.peek, bracket, lead, show byte ',' ≠ byte ']' by decide]

theorem element_taken (text : String) (value : Datum) (takes : Takes read text value) (opens : Opens text)
    (fuel count index : Nat) (more : Bytes) (breaks : Breaks more) :
    readElements read (fuel + 1) count ⟨lead (count == 0) ++ (encode text ++ more), index⟩ =
      (readElements read fuel (count + 1)
        ⟨more, index + (lead (count == 0)).length + (encode text).length⟩).map fun found => (value :: found.1, found.2) := by
  rw [readElements, element_ahead text opens]
  simp only [bind, Except.bind, if_true, takes more _ breaks, Except.mapError]
  cases readElements read fuel (count + 1) ⟨more, index + (lead (count == 0)).length + (encode text).length⟩ <;> rfl

theorem elements_following (items : List (String × Datum))
    (taken : ∀ item ∈ items, Takes read item.1 item.2 ∧ Opens item.1) (fuel count index : Nat) (later : count ≠ 0)
    (enough : items.length < fuel) :
    readElements read fuel count ⟨following (items.map Prod.fst) ++ byte ']' :: rest, index⟩ =
      .ok (items.map Prod.snd, ⟨byte ']' :: rest, index + (following (items.map Prod.fst)).length⟩) := by
  obtain ⟨n, rfl⟩ := Nat.exists_eq_succ_of_ne_zero (Nat.ne_zero_of_lt enough)
  induction items generalizing n count index with
  | nil => rfl
  | cons item items ih =>
      obtain ⟨n, rfl⟩ := Nat.exists_eq_succ_of_ne_zero (Nat.ne_zero_of_lt (Nat.lt_of_succ_lt_succ enough))
      obtain ⟨takes, opens⟩ := taken item List.mem_cons_self
      have first := element_taken read item.1 item.2 takes opens n.succ count index
        (following (items.map Prod.fst) ++ byte ']' :: rest) (following_breaks _ _ rest (.inl rfl))
      rw [beq_false_of_ne later, ih (fun other member => taken other (List.mem_cons_of_mem _ member)) _ _
        (Nat.succ_ne_zero count) n (Nat.lt_of_succ_lt_succ enough)] at first
      rw [List.map_cons, following_cons, following_size]
      exact first

theorem elements_taken (items : List (String × Datum))
    (taken : ∀ item ∈ items, Takes read item.1 item.2 ∧ Opens item.1) (fuel index : Nat) (enough : items.length < fuel) :
    readElements read fuel 0 ⟨encode (",".intercalate (items.map Prod.fst)) ++ byte ']' :: rest, index⟩ =
      .ok (items.map Prod.snd,
        ⟨byte ']' :: rest, index + (encode (",".intercalate (items.map Prod.fst))).length⟩) := by
  obtain ⟨n, rfl⟩ := Nat.exists_eq_succ_of_ne_zero (Nat.ne_zero_of_lt enough)
  cases items with
  | nil => rfl
  | cons item items =>
      obtain ⟨takes, opens⟩ := taken item List.mem_cons_self
      have first := element_taken read item.1 item.2 takes opens n 0 index
        (following (items.map Prod.fst) ++ byte ']' :: rest) (following_breaks _ _ rest (.inl rfl))
      rw [elements_following read rest items (fun other member => taken other (List.mem_cons_of_mem _ member)) n 1 _
        Nat.one_ne_zero (Nat.lt_of_succ_lt_succ enough)] at first
      rw [List.map_cons, encode_intercalate, List.append_assoc, List.length_append, ← Nat.add_assoc]
      exact first

theorem encode_list (items : List String) (more : Bytes) :
    encode (listJson items) ++ more = byte '[' :: (encode (",".intercalate items) ++ byte ']' :: more) := by
  rw [listJson, Text.encode_append, Text.encode_append, List.append_assoc, List.append_assoc]
  rfl

theorem list_takes (items : List (String × Datum)) (taken : ∀ item ∈ items, Takes read item.1 item.2 ∧ Opens item.1) :
    Takes (readList read) (listJson (items.map Prod.fst)) (.list (items.map Prod.snd)) := by
  intro rest index _
  have long := intercalate_length (items.map Prod.fst)
  have size := congrArg List.length (encode_list (items.map Prod.fst) [])
  rw [List.length_map] at long
  simp only [List.append_nil, List.length_cons, List.length_append, List.length_nil] at size
  rw [encode_list, readList, at_value _ _ _ _ (by decide), if_pos (by decide), size]
  have elements := elements_taken read rest items taken
    ((encode (",".intercalate (items.map Prod.fst)) ++ byte ']' :: rest).length + 2) (index + 1) (by
      rw [List.length_append]
      omega)
  simp only [bind, Except.bind]
  rw [next_ahead, List.length_cons, elements, Nat.add_right_comm]
  rfl

end Lists

structure Member where
  field : Field
  text : String
  value : Datum

namespace Member

def shown (m : Member) : String := memberJson m.field.name m.text

def found (m : Member) : Option Datum := some m.value

end Member

section Records

theorem found_at {α : Type} (p : α → Bool) (before : List α) (a : α) (after : List α) (hit : p a = true)
    (others : ∀ x ∈ before, p x = false) : (before ++ a :: after).findIdx? p = some before.length := by
  induction before with
  | nil => simp [List.findIdx?_cons, hit]
  | cons x before ih =>
      rw [List.cons_append, List.findIdx?_cons, others x List.mem_cons_self, if_neg Bool.false_ne_true,
        ih fun other member => others other (List.mem_cons_of_mem _ member)]
      rfl

theorem completed_found (members : List Member) :
    completed (members.map Member.field) (members.map Member.found) = .ok (members.map Member.value) := by
  induction members with
  | nil => rfl
  | cons m members ih =>
      rw [List.map_cons, List.map_cons, completed]
      simp only [List.head?_cons, Option.join_some, Member.found, List.tail_cons, ih, bind, Except.bind, List.map_cons]
      rfl

theorem encode_member (m : Member) (more : Bytes) :
    encode m.shown ++ more = encode (textJson m.field.name) ++ byte ':' :: (encode m.text ++ more) := by
  rw [Member.shown, memberJson, Text.encode_append, Text.encode_append, List.append_assoc, List.append_assoc]
  rfl

theorem member_size (m : Member) (index : Nat) :
    index + (encode m.shown).length = index + (encode (textJson m.field.name)).length + 1 + (encode m.text).length := by
  have bytes := congrArg List.length (encode_member m [])
  simp only [List.append_nil, List.length_append, List.length_cons] at bytes
  omega

theorem key_ahead (m : Member) (first : Bool) (more : Bytes) (index : Nat) :
    (Cursor.mk (lead first ++ (encode m.shown ++ more)) index).nextKey first =
      .ok (true, ⟨encode m.shown ++ more, index + (lead first).length⟩) := by
  have begins := encode_member m more
  rw [encode_text] at begins
  rw [begins]
  cases first <;> rfl

theorem member_taken (fields : List Field) (m : Member) (takes : Takes m.field.read m.text m.value) (i : Nat)
    (place : fields.findIdx? (fun field => field.name == m.field.name) = some i)
    (own : (fields.map Field.read).getD i readText = m.field.read) (values : List (Option Datum))
    (free : values.getD i none = none) (fuel index : Nat) (first : Bool) (more : Bytes) (breaks : Breaks more) :
    readMembers fields (fuel + 1) first values ⟨lead first ++ (encode m.shown ++ more), index⟩ =
      readMembers fields fuel false (values.set i m.found)
        ⟨more, index + (lead first).length + (encode m.shown).length⟩ := by
  have key := text_body m.field.name (byte ':' :: (encode m.text ++ more)) (index + (lead first).length)
  have colon : ∀ at_, (Cursor.mk (byte ':' :: (encode m.text ++ more)) at_).colon =
      .ok ⟨encode m.text ++ more, at_ + 1⟩ := fun _ => rfl
  rw [← encode_member] at key
  rw [readMembers, key_ahead, member_size]
  simp only [bind, Except.bind, if_true, key, place, free, Option.isSome_none, Bool.false_eq_true, if_false, colon, own,
    takes more _ breaks, Except.mapError]
  rfl

-- What has been read of members once those of some names have been found.
def foundAmong (members : List Member) (names : List String) : List (Option Datum) :=
  members.map fun m => if m.field.name ∈ names then m.found else none

section Members

variable (members : List Member) (distinct : (members.map fun m => m.field.name).Nodup)

include distinct

theorem member_place (m : Member) (among : m ∈ members) (names : List String) (new : m.field.name ∉ names) :
    ∃ i, (members.map Member.field).findIdx? (fun field => field.name == m.field.name) = some i ∧
      ((members.map Member.field).map Field.read).getD i readText = m.field.read ∧
      (foundAmong members names).getD i none = none ∧
      (foundAmong members names).set i m.found = foundAmong members (names ++ [m.field.name]) := by
  obtain ⟨before, after, rfl⟩ := List.append_of_mem among
  rw [List.map_append, List.map_cons, List.nodup_append, List.nodup_cons] at distinct
  obtain ⟨_, ⟨last, _⟩, first⟩ := distinct
  have earlier : ∀ other ∈ before, other.field.name ≠ m.field.name := fun other member =>
    first _ (List.mem_map_of_mem member) _ List.mem_cons_self
  have later : ∀ other ∈ after, other.field.name ≠ m.field.name := fun other member same =>
    last (same ▸ List.mem_map_of_mem member)
  have kept : ∀ part : List Member, (∀ other ∈ part, other.field.name ≠ m.field.name) →
      foundAmong part names = foundAmong part (names ++ [m.field.name]) := by
    intro part others
    apply List.map_congr_left
    intro other member
    simp only [List.mem_append, List.mem_singleton, others other member, or_false]
  have place := found_at (fun field : Field => field.name == m.field.name) (before.map Member.field) m.field
    (after.map Member.field) (beq_self_eq_true _) (by
      intro field member
      obtain ⟨other, within, rfl⟩ := List.mem_map.mp member
      exact beq_false_of_ne (earlier other within))
  rw [List.length_map, ← List.map_cons, ← List.map_append] at place
  have apart : ∀ known, foundAmong (before ++ m :: after) known =
      foundAmong before known ++ (if m.field.name ∈ known then m.found else none) :: foundAmong after known := by
    intro known
    rw [foundAmong, List.map_append, List.map_cons]
    rfl
  have length : before.length = (foundAmong before names).length := (List.length_map _).symm
  refine ⟨before.length, place, by simp, ?_, ?_⟩
  · rw [apart, if_neg new, length]
    simp
  · rw [apart, apart, if_neg new, if_pos (by simp), ← kept before earlier, ← kept after later, length]
    simp

variable (rest : Bytes)

theorem members_following (todo : List Member) (among : ∀ m ∈ todo, m ∈ members)
    (takes : ∀ m ∈ todo, Takes m.field.read m.text m.value) (names : List String)
    (apart : (names ++ todo.map fun m => m.field.name).Nodup) (fuel index : Nat) (enough : todo.length < fuel) :
    readMembers (members.map Member.field) fuel false (foundAmong members names)
        ⟨following (todo.map Member.shown) ++ byte '\x7d' :: rest, index⟩ =
      .ok (foundAmong members (names ++ todo.map fun m => m.field.name),
        ⟨byte '\x7d' :: rest, index + (following (todo.map Member.shown)).length⟩) := by
  obtain ⟨n, rfl⟩ := Nat.exists_eq_succ_of_ne_zero (Nat.ne_zero_of_lt enough)
  induction todo generalizing names n index with
  | nil =>
      simp only [List.map_nil, List.append_nil]
      rfl
  | cons m todo ih =>
      obtain ⟨n, rfl⟩ := Nat.exists_eq_succ_of_ne_zero (Nat.ne_zero_of_lt (Nat.lt_of_succ_lt_succ enough))
      have new : m.field.name ∉ names := fun old =>
        (List.nodup_append.mp apart).2.2 _ old _ List.mem_cons_self rfl
      obtain ⟨i, place, own, free, values⟩ := member_place members distinct m (among m List.mem_cons_self) names new
      have taken := member_taken (members.map Member.field) m (takes m List.mem_cons_self) i place own _ free n.succ
        index false (following (todo.map Member.shown) ++ byte '\x7d' :: rest) (following_breaks _ _ rest (.inr rfl))
      have goesOn := ih (fun other member => among other (List.mem_cons_of_mem _ member))
        (fun other member => takes other (List.mem_cons_of_mem _ member)) (names ++ [m.field.name])
        (by simpa using apart) (index + (lead false).length + (encode m.shown).length) n
        (Nat.lt_of_succ_lt_succ enough)
      have shown : (m :: todo).map Member.shown = m.shown :: todo.map Member.shown := rfl
      rw [List.append_assoc, List.singleton_append] at goesOn
      rw [values] at taken
      rw [shown, following_cons, following_size]
      exact taken.trans goesOn

theorem members_taken (order : List Member) (same : order.Perm members)
    (takes : ∀ m ∈ members, Takes m.field.read m.text m.value) (fuel index : Nat) (enough : members.length < fuel) :
    readMembers (members.map Member.field) fuel true ((members.map Member.field).map fun _ => none)
        ⟨encode (",".intercalate (order.map Member.shown)) ++ byte '\x7d' :: rest, index⟩ =
      .ok (members.map Member.found,
        ⟨byte '\x7d' :: rest, index + (encode (",".intercalate (order.map Member.shown))).length⟩) := by
  have none : (members.map Member.field).map (fun _ => none) = foundAmong members [] := by
    rw [List.map_map]
    rfl
  have all : foundAmong members (order.map fun m => m.field.name) = members.map Member.found := by
    apply List.map_congr_left
    intro m member
    exact if_pos (List.mem_map_of_mem (same.mem_iff.mpr member))
  have apart : (order.map fun m => m.field.name).Nodup := (same.map _).nodup_iff.mpr distinct
  rw [← same.length_eq] at enough
  rw [none, ← all]
  obtain ⟨n, rfl⟩ := Nat.exists_eq_succ_of_ne_zero (Nat.ne_zero_of_lt enough)
  cases order with
  | nil => rfl
  | cons m order =>
      have among : ∀ other ∈ m :: order, other ∈ members := fun other member => same.mem_iff.mp member
      obtain ⟨i, place, own, free, values⟩ :=
        member_place members distinct m (among m List.mem_cons_self) [] List.not_mem_nil
      have first := member_taken (members.map Member.field) m (takes m (among m List.mem_cons_self)) i place own _ free n
        index true (following (order.map Member.shown) ++ byte '\x7d' :: rest) (following_breaks _ _ rest (.inr rfl))
      have others := members_following members distinct rest order
        (fun other member => among other (List.mem_cons_of_mem _ member))
        (fun other member => takes other (among other (List.mem_cons_of_mem _ member))) [m.field.name] apart n
        (index + (encode m.shown).length) (Nat.lt_of_succ_lt_succ enough)
      have shown : (m :: order).map Member.shown = m.shown :: order.map Member.shown := rfl
      rw [values, lead_first, lead_first_size, Nat.add_zero] at first
      rw [shown, encode_intercalate, List.append_assoc, List.length_append, ← Nat.add_assoc]
      exact first.trans others

end Members

theorem encode_object (members : List Member) (more : Bytes) :
    encode (objectJson (members.map fun m => (m.field.name, m.text))) ++ more =
      byte '\x7b' :: (encode (",".intercalate (members.map Member.shown)) ++ byte '\x7d' :: more) := by
  have parts : ((members.map fun m => (m.field.name, m.text)).map fun x => memberJson x.1 x.2) =
      members.map Member.shown := List.map_map
  rw [objectJson, parts, Text.encode_append, Text.encode_append, List.append_assoc, List.append_assoc]
  rfl

theorem object_opens (members : List Member) : Opens (objectJson (members.map fun m => (m.field.name, m.text))) := by
  have bytes := encode_object members []
  rw [List.append_nil] at bytes
  exact ⟨byte '\x7b', _, bytes, by decide, by decide, by decide⟩

/-- A record that is written as an object with all its fields in any order. -/
theorem record_takes_shuffled (name : String) (members order : List Member) (same : order.Perm members)
    (takes : ∀ m ∈ members, Takes m.field.read m.text m.value)
    (distinct : (members.map fun m => m.field.name).Nodup) :
    Takes (readRecord name (members.map Member.field)) (objectJson (order.map fun m => (m.field.name, m.text)))
      (.record (members.map Member.value)) := by
  intro rest index _
  have long := intercalate_length (order.map Member.shown)
  have size := congrArg List.length (encode_object order [])
  rw [List.length_map, same.length_eq] at long
  simp only [List.append_nil, List.length_cons, List.length_append, List.length_nil] at size
  rw [encode_object, readRecord, at_value _ _ _ _ (by decide), if_pos (by decide), size]
  have taken := members_taken members distinct rest order same takes
    ((encode (",".intercalate (order.map Member.shown)) ++ byte '\x7d' :: rest).length + 2) (index + 1) (by
      rw [List.length_append]
      omega)
  simp only [bind, Except.bind]
  rw [next_ahead, List.length_cons, taken]
  simp only [completed_found]
  rw [Nat.add_right_comm]
  rfl

theorem record_takes (name : String) (members : List Member) (takes : ∀ m ∈ members, Takes m.field.read m.text m.value)
    (distinct : (members.map fun m => m.field.name).Nodup) :
    Takes (readRecord name (members.map Member.field)) (objectJson (members.map fun m => (m.field.name, m.text)))
      (.record (members.map Member.value)) :=
  record_takes_shuffled name members members (.refl _) takes distinct

end Records

theorem optional_takes (read : Reader Datum) (text : String) (value : Datum) (takes : Takes read text value)
    (opens : Opens text) : Takes (readOptional read) text value := by
  intro rest index breaks
  obtain ⟨b, tail, bytes, solid, _, null⟩ := opens
  have taken := takes rest index breaks
  rw [bytes, List.cons_append] at taken ⊢
  have other : (Cursor.mk (b :: (tail ++ rest)) index).aheadIs 'n' = false := by
    simpa [Cursor.aheadIs, Cursor.peek] using null
  rw [readOptional, solid_ahead b _ index solid]
  simp only [other, Bool.false_eq_true, if_false]
  exact taken

theorem read_written (read : Reader Datum) (text : String) (value : Datum) (takes : Takes read text value) :
    readAll read (encode text) = .ok value := by
  have taken := takes [] 0 (by rintro b ⟨⟩)
  rw [List.append_nil] at taken
  rw [readAll, Cursor.start, taken]
  rfl

section Decoding

variable {α : Type} (read : Reader Datum) (ofDatum? : Datum → Option α)

-- A value that is read in a text, if it has the shape that is asked for.
def decode? (text : String) : Option α := (readAll read (encode text)).toOption.bind ofDatum?

theorem decode_written (text : String) (value : Datum) (takes : Takes read text value) :
    decode? read ofDatum? text = ofDatum? value := by
  rw [decode?, read_written _ _ _ takes]
  rfl

end Decoding

end DoubleEntry.Json
