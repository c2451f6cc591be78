import DoubleEntry.Config.Value
import Mathlib.Data.List.Nodup

/-!
Settings that stand two names deep, in a group under a name, laid over one another. Whatever a source sets is found at
its place behind it, and all else is found as it was, in the same group too.
-/

set_option autoImplicit false

namespace DoubleEntry.Config

theorem Table.put_fresh {α : Type} (key : String) (a : α) (entries : List (String × α))
    (fresh : key ∉ entries.map Prod.fst) : put key a entries = entries ++ [(key, a)] := by
  induction entries with
  | nil => rfl
  | cons entry rest ih =>
      obtain ⟨k, b⟩ := entry
      rw [List.map_cons, List.mem_cons, not_or] at fresh
      rw [put, if_neg (Ne.symm fresh.1), ih fresh.2, List.cons_append]

abbrev Assignments := List (List String × Value)

-- What an entry of a source sets. A table under a single name is a group, each of whose members is set by itself.
def assignedBy (entry : String × Value) : Assignments :=
  match keyPath entry.1, entry.2 with
  | [group], .table _ members => members.map fun member => ([group, member.1], member.2)
  | path, v => [(path, v)]

def assigned (source : Table) : Assignments := source.flatMap assignedBy

namespace Value

def isScalar : Value → Bool
  | scalar _ _ => true
  | _ => false

def isTable : Value → Bool
  | table _ _ => true
  | _ => false

def at? (v : Value) (group name : String) : Option Value :=
  (entriesOf ((entriesOf (some v)).lookup group)).lookup name

structure Grouped (v : Value) : Prop where
  isTable : v.isTable = true
  groups : ∀ group x, (entriesOf (some v)).lookup group = some x → x.isTable = true

theorem empty_grouped : emptyTable.Grouped := by
  refine ⟨rfl, ?_⟩
  intro group x found
  cases found

theorem scalar_laid (lower : Option Value) (x : Value) (isScalar : x.isScalar = true) : laidOver lower x = x := by
  cases x with
  | scalar origin s => simp only [laidOver]
  | list _ _ | table _ _ => cases isScalar

theorem each_laid (members : Table) (scalars : ∀ member ∈ members, member.2.isScalar = true) (lower : Table)
    (name : String) :
    (laidOverEach lower members).lookup name = (members.reverse.lookup name).or (lower.lookup name) := by
  induction members generalizing lower with
  | nil => rw [laidOverEach, List.reverse_nil, List.lookup_nil, Option.none_or]
  | cons member rest ih =>
      obtain ⟨own, x⟩ := member
      have isScalar : x.isScalar = true := scalars (own, x) (by simp)
      rw [laidOverEach, scalar_laid _ x isScalar, ih fun member among => scalars member (by simp [among]),
        List.reverse_cons, List.lookup_append, Option.or_assoc]
      by_cases same : name = own
      · rw [same, Table.lookup_put_self, List.lookup_cons_self, Option.some_or]
      · rw [Table.lookup_put_of_ne same, List.lookup_cons, beq_false_of_ne same]
        rfl

section Group

variable (v : Value) (origin own : Origin) (group : String) (members : Table)

theorem put_at (other name : String) :
    (table origin (Table.put group (table own members) (entriesOf (some v)))).at? other name =
      if other = group then members.lookup name else v.at? other name := by
  by_cases same : other = group
  · rw [if_pos same, at?, same, entriesOf, Table.lookup_put_self]
    rfl
  · rw [if_neg same, at?, entriesOf, Table.lookup_put_of_ne same]
    rfl

theorem put_grouped (grouped : v.Grouped) :
    (table origin (Table.put group (table own members) (entriesOf (some v)))).Grouped := by
  refine ⟨rfl, ?_⟩
  intro other x found
  rw [entriesOf] at found
  by_cases same : other = group
  · rw [same, Table.lookup_put_self] at found
    cases found
    rfl
  · rw [Table.lookup_put_of_ne same] at found
    exact grouped.groups other x found

end Group

end Value

open Value

-- Scalars at places two names deep.
def Plain (assignments : Assignments) : Prop :=
  ∀ a ∈ assignments, (∃ group name, a.1 = [group, name]) ∧ a.2.isScalar = true

-- What is found where assignments have been made. Of two at one place, the later counts.
structure Laid (v : Value) (assignments : Assignments) (after : Value) : Prop where
  grouped : after.Grouped
  found : ∀ group name, after.at? group name = (assignments.reverse.lookup [group, name]).or (v.at? group name)

theorem laid_then (v mid after : Value) (first second : Assignments) (below : Laid v first mid)
    (above : Laid mid second after) : Laid v (first ++ second) after := by
  refine ⟨above.grouped, ?_⟩
  intro group name
  rw [above.found, below.found, List.reverse_append, List.lookup_append, Option.or_assoc]

theorem member_laid (v : Value) (grouped : v.Grouped) (group name : String) (x : Value) (isScalar : x.isScalar = true) :
    Laid v [([group, name], x)] (laidAt (some v) x [group, name]) := by
  rw [laidAt, laidAt, laidAt, scalar_laid _ x isScalar]
  refine ⟨put_grouped v _ _ group _ grouped, ?_⟩
  intro other own
  rw [put_at, List.reverse_singleton, List.lookup_cons, List.lookup_nil]
  by_cases sameGroup : other = group
  · rw [if_pos sameGroup, sameGroup]
    by_cases same : own = name
    · rw [same, Table.lookup_put_self, beq_self_eq_true]
      rfl
    · have elsewhere : ([group, own] == [group, name]) = false := by simpa using same
      rw [Table.lookup_put_of_ne same, elsewhere]
      rfl
  · have elsewhere : ([other, own] == [group, name]) = false := by simp [sameGroup]
    rw [if_neg sameGroup, elsewhere]
    rfl

theorem lookup_members (group other name : String) (members : Table) :
    (members.map fun member => ([group, member.1], member.2)).lookup [other, name] =
      if other = group then members.lookup name else none := by
  induction members with
  | nil => simp
  | cons member rest ih =>
      rw [List.map_cons, List.lookup_cons, List.lookup_cons, ih]
      by_cases sameGroup : other = group
      · rw [if_pos sameGroup, if_pos sameGroup]
        by_cases same : name = member.1 <;> simp [sameGroup, same]
      · have elsewhere : ([other, name] == [group, member.1]) = false := by simp [sameGroup]
        rw [if_neg sameGroup, if_neg sameGroup, elsewhere]

theorem group_laid (v : Value) (grouped : v.Grouped) (group : String) (origin : Origin) (members : Table)
    (scalars : ∀ member ∈ members, member.2.isScalar = true) :
    Laid v (members.map fun member => ([group, member.1], member.2)) (laidAt (some v) (.table origin members) [group]) := by
  rw [laidAt, laidAt, laidOver]
  refine ⟨put_grouped v _ _ group _ grouped, ?_⟩
  intro other name
  rw [put_at, ← List.map_reverse, lookup_members]
  by_cases same : other = group
  · rw [if_pos same, if_pos same, each_laid members scalars, same]
    rfl
  · rw [if_neg same, if_neg same, Option.none_or]

theorem entry_laid (v : Value) (grouped : v.Grouped) (entry : String × Value) (plain : Plain (assignedBy entry)) :
    Laid v (assignedBy entry) (laidAt (some v) entry.2 (keyPath entry.1)) := by
  obtain ⟨key, x⟩ := entry
  revert plain
  rw [assignedBy]
  split
  · rename_i group origin members place isTable
    intro plain
    rw [place, isTable]
    refine group_laid v grouped group origin members ?_
    intro member among
    exact (plain ([group, member.1], member.2) (List.mem_map_of_mem among)).2
  · intro plain
    obtain ⟨⟨group, name, place⟩, isScalar⟩ := plain (keyPath key, x) (by simp)
    dsimp only at place isScalar ⊢
    rw [place]
    exact member_laid v grouped group name x isScalar

theorem layer_laid (source : Table) (plain : Plain (assigned source)) (v : Value) (grouped : v.Grouped) :
    Laid v (assigned source) (layer v source) := by
  induction source generalizing v with
  | nil => exact ⟨grouped, fun _ _ => Option.none_or.symm⟩
  | cons entry rest ih =>
      rw [assigned, List.flatMap_cons] at plain ⊢
      have own := entry_laid v grouped entry fun a among => plain a (List.mem_append_left _ among)
      have others := ih (fun a among => plain a (List.mem_append_right _ among)) _ own.grouped
      exact laid_then v _ _ _ _ own others

theorem layers_laid (sources : List Table) (plain : ∀ source ∈ sources, Plain (assigned source)) (v : Value)
    (grouped : v.Grouped) : Laid v (sources.flatMap assigned) (sources.foldl layer v) := by
  induction sources generalizing v with
  | nil => exact ⟨grouped, fun _ _ => Option.none_or.symm⟩
  | cons source rest ih =>
      have own := layer_laid source (plain source (by simp)) v grouped
      have others := ih (fun source among => plain source (by simp [among])) _ own.grouped
      exact laid_then v _ _ _ _ own others

theorem lookup_assigned (assignments : Assignments) (once : (assignments.map Prod.fst).Nodup) (path : List String)
    (x : Value) (among : (path, x) ∈ assignments) : assignments.lookup path = some x := by
  cases found : assignments.lookup path with
  | none =>
      have other := List.lookup_eq_none_iff.mp found (path, x) among
      simp at other
  | some y =>
      obtain ⟨before, after, split, _⟩ := List.lookup_eq_some_iff.mp found
      have member : (path, y) ∈ assignments := by rw [split]; simp
      have same : (path, y) = (path, x) := List.inj_on_of_nodup_map once member among rfl
      rw [(Prod.mk.inj same).2]

theorem lookup_reverse (assignments : Assignments) (once : (assignments.map Prod.fst).Nodup) (path : List String) :
    assignments.reverse.lookup path = assignments.lookup path := by
  cases found : assignments.lookup path with
  | none =>
      rw [List.lookup_eq_none_iff] at found ⊢
      exact fun a among => found a (List.mem_reverse.mp among)
  | some x =>
      obtain ⟨before, after, split, _⟩ := List.lookup_eq_some_iff.mp found
      have onceBack : (assignments.reverse.map Prod.fst).Nodup := by
        rw [List.map_reverse, List.nodup_reverse]
        exact once
      refine lookup_assigned assignments.reverse onceBack path x ?_
      rw [List.mem_reverse, split]
      simp

end DoubleEntry.Config
