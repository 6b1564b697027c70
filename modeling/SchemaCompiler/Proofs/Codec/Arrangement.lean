/-
**Members in another order.**

The members of an object count by their keys, not by their places. An arrangement puts the members
of every object into some order, at every depth, and leaves all else alone:

* `Entries.find?_eq_some_iff` — the value found under a key is the one that stands with it.
* `Entries.inOrder_perm`, `Entries.inOrder_eq_of_perm` — putting entries with distinct keys into
  key order loses none, and it gives the same list from any order they come in.
* `Json.inKeyOrder_inKeyOrder` — a value in key order stays as it is.
* `Json.Arrangement.unchanged`, `Json.Arrangement.inKeyOrder` — leaving the members as they are is an
  arrangement, and so is putting them into key order.
-/

import Mathlib.Data.List.Sort
import SchemaCompiler.Json.Basic

namespace SchemaCompiler

namespace Entries

variable {α : Type} {entries : List (String × α)}

theorem keys_nodup (increasing : Increasing entries) : (entries.map (·.1)).Nodup :=
  (⟨entries, increasing⟩ : Dictionary α).nodup_keys

/-- **The value found under a key** is the value that stands with it. -/
theorem find?_eq_some_iff (distinct : (entries.map (·.1)).Nodup) {key : String} {value : α} :
    find? key entries = some value ↔ (key, value) ∈ entries := by
  induction entries with
  | nil => simp [find?]
  | cons head rest ih =>
    obtain ⟨headFresh, restDistinct⟩ := List.nodup_cons.mp distinct
    by_cases same : head.1 = key
    · have unlisted : (key, value) ∉ rest := fun listed =>
        headFresh (List.mem_map.mpr ⟨_, listed, same.symm⟩)
      simp only [find?, List.find?_cons, same, decide_true, Option.map_some, Option.some.injEq,
        List.mem_cons, unlisted, or_false]
      exact ⟨fun found => Prod.ext same.symm found.symm, fun isHead => (congrArg (·.2) isHead).symm⟩
    · have other : (key, value) ≠ head := fun isHead => same (congrArg (·.1) isHead).symm
      simpa [find?, List.find?_cons, same, other] using ih restDistinct

theorem insert_perm {key : String} (value : α) (fresh : ∀ entry ∈ entries, entry.1 ≠ key) :
    (insert key value entries).Perm ((key, value) :: entries) := by
  induction entries with
  | nil => exact .refl _
  | cons head rest ih =>
    have distinct : key ≠ head.1 := (fresh head List.mem_cons_self).symm
    simp only [insert, distinct, if_false]
    split
    · exact .refl _
    · have inserted := ih fun entry inRest => fresh entry (List.mem_cons_of_mem _ inRest)
      exact (inserted.cons head).trans (.swap _ _ _)

theorem foldl_insert_perm (kept : List (String × α))
    (distinct : ((kept ++ entries).map (·.1)).Nodup) :
    (entries.foldl (fun kept entry => insert entry.1 entry.2 kept) kept).Perm (kept ++ entries) := by
  induction entries generalizing kept with
  | nil => simp
  | cons head rest ih =>
    have moved : (kept ++ head :: rest).Perm (head :: kept ++ rest) := List.perm_middle
    have movedDistinct : ((head :: kept ++ rest).map (·.1)).Nodup :=
      (moved.map (·.1)).nodup distinct
    have fresh : ∀ entry ∈ kept, entry.1 ≠ head.1 := fun entry inKept same =>
      (List.nodup_cons.mp movedDistinct).1
        (List.mem_map.mpr ⟨entry, List.mem_append_left rest inKept, same⟩)
    have inserted : (insert head.1 head.2 kept).Perm (head :: kept) := insert_perm head.2 fresh
    have insertedDistinct : ((insert head.1 head.2 kept ++ rest).map (·.1)).Nodup :=
      ((inserted.append_right rest).symm.map (·.1)).nodup movedDistinct
    have others : (rest.foldl (fun kept entry => insert entry.1 entry.2 kept)
        (insert head.1 head.2 kept)).Perm (insert head.1 head.2 kept ++ rest) :=
      ih _ insertedDistinct
    exact (others.trans (inserted.append_right rest)).trans moved.symm

/-- Entries with distinct keys are all there in key order. -/
theorem inOrder_perm (distinct : (entries.map (·.1)).Nodup) : (inOrder entries).Perm entries :=
  foldl_insert_perm [] distinct

/-- **Entries in any order** have one key order. -/
theorem inOrder_eq_of_perm {others : List (String × α)} (perm : others.Perm entries)
    (increasing : Increasing entries) : inOrder others = entries := by
  have distinct : (others.map (·.1)).Nodup := (perm.map (·.1)).nodup_iff.mpr (keys_nodup increasing)
  have same : (inOrder others).Perm entries := (inOrder_perm distinct).trans perm
  refine same.eq_of_pairwise (fun first second _ _ less greater => ?_)
    (increasing_inOrder others) increasing
  exact absurd (String.lt_trans less greater) (String.lt_irrefl _)

theorem mem_of_mem_foldl_insert {entry : String × α} (kept : List (String × α))
    (member : entry ∈ entries.foldl (fun kept entry => insert entry.1 entry.2 kept) kept) :
    entry ∈ kept ∨ entry ∈ entries := by
  induction entries generalizing kept with
  | nil => exact .inl member
  | cons head rest ih =>
    rcases ih _ member with inKept | inRest
    · rcases mem_insert inKept with isHead | older
      · exact .inr (isHead ▸ List.mem_cons_self)
      · exact .inl older
    · exact .inr (List.mem_cons_of_mem _ inRest)

theorem mem_of_mem_inOrder {entry : String × α} (member : entry ∈ inOrder entries) :
    entry ∈ entries := by
  simpa using mem_of_mem_foldl_insert [] member

end Entries

namespace Json

/-! ### Key order -/

theorem itemsInKeyOrder_eq_map (items : List Json) : itemsInKeyOrder items = items.map inKeyOrder := by
  induction items with
  | nil => rfl
  | cons item rest ih => rw [itemsInKeyOrder, ih, List.map_cons]

theorem membersInKeyOrder_eq_map (members : List (String × Json)) :
    membersInKeyOrder members = members.map fun member => (member.1, inKeyOrder member.2) := by
  induction members with
  | nil => rfl
  | cons member rest ih => rw [membersInKeyOrder, ih, List.map_cons]

theorem inKeyOrder_array (items : List Json) :
    inKeyOrder (.array items) = .array (items.map inKeyOrder) := by
  rw [inKeyOrder, itemsInKeyOrder_eq_map]

theorem inKeyOrder_object (members : List (String × Json)) :
    inKeyOrder (.object members) =
      .object (Entries.inOrder (members.map fun member => (member.1, inKeyOrder member.2))) := by
  rw [inKeyOrder, membersInKeyOrder_eq_map]

/-- Members whose values are in key order stay as they are. -/
theorem map_inKeyOrder_eq_self {members : List (String × Json)}
    (ordered : ∀ member ∈ members, inKeyOrder member.2 = member.2) :
    (members.map fun member => (member.1, inKeyOrder member.2)) = members := by
  conv_rhs => rw [← List.map_id members]
  refine List.map_congr_left fun member listed => ?_
  rw [ordered member listed, id]

mutual

/-- **A value in key order** stays as it is. -/
theorem inKeyOrder_inKeyOrder : (value : Json) → inKeyOrder (inKeyOrder value) = inKeyOrder value
  | .null => rfl
  | .bool _ => rfl
  | .number _ => rfl
  | .string _ => rfl
  | .array items => by
    rw [inKeyOrder_array, inKeyOrder_array, List.map_map]
    exact congrArg Json.array (List.map_congr_left (inKeyOrder_inKeyOrder_item items))
  | .object members => by
    rw [inKeyOrder_object, inKeyOrder_object]
    have ordered : ∀ member ∈ Entries.inOrder
        (members.map fun member => (member.1, inKeyOrder member.2)),
        inKeyOrder member.2 = member.2 := by
      intro member listed
      obtain ⟨original, isMember, rfl⟩ := List.mem_map.mp (Entries.mem_of_mem_inOrder listed)
      exact inKeyOrder_inKeyOrder_member members original isMember
    rw [map_inKeyOrder_eq_self ordered,
      Entries.inOrder_of_increasing (Entries.increasing_inOrder _)]

theorem inKeyOrder_inKeyOrder_item : (items : List Json) →
    ∀ item ∈ items, inKeyOrder (inKeyOrder item) = inKeyOrder item
  | [], _, listed => nomatch listed
  | first :: rest, item, listed => by
    rcases List.mem_cons.mp listed with isFirst | inRest
    · rw [isFirst]
      exact inKeyOrder_inKeyOrder first
    · exact inKeyOrder_inKeyOrder_item rest item inRest

theorem inKeyOrder_inKeyOrder_member : (members : List (String × Json)) →
    ∀ member ∈ members, inKeyOrder (inKeyOrder member.2) = inKeyOrder member.2
  | [], _, listed => nomatch listed
  | (key, value) :: rest, member, listed => by
    rcases List.mem_cons.mp listed with isFirst | inRest
    · rw [isFirst]
      exact inKeyOrder_inKeyOrder value
    · exact inKeyOrder_inKeyOrder_member rest member inRest

end

/-- The items of an array in key order are in key order. -/
theorem inKeyOrder_item {items : List Json} (ordered : inKeyOrder (.array items) = .array items) :
    ∀ item ∈ items, inKeyOrder item = item := by
  intro item listed
  rw [inKeyOrder_array, Json.array.injEq] at ordered
  rw [← ordered] at listed
  obtain ⟨original, _, rfl⟩ := List.mem_map.mp listed
  exact inKeyOrder_inKeyOrder original

/-- The values of the members of an object in key order are in key order. -/
theorem inKeyOrder_member {members : List (String × Json)}
    (ordered : inKeyOrder (.object members) = .object members) :
    ∀ member ∈ members, inKeyOrder member.2 = member.2 := by
  intro member listed
  rw [inKeyOrder_object, Json.object.injEq] at ordered
  rw [← ordered] at listed
  obtain ⟨original, _, rfl⟩ := List.mem_map.mp (Entries.mem_of_mem_inOrder listed)
  exact inKeyOrder_inKeyOrder original.2

/-! ### Arrangements -/

/-- A way to put the members of every object with distinct keys into some order. -/
structure Arrangement (arrange : Json → Json) : Prop where
  null : arrange .null = .null
  bool : ∀ value, arrange (.bool value) = .bool value
  number : ∀ value, arrange (.number value) = .number value
  string : ∀ value, arrange (.string value) = .string value
  array : ∀ items, arrange (.array items) = .array (items.map arrange)
  object : ∀ members, (members.map (·.1)).Nodup →
    ∃ others, others.Perm (members.map fun member => (member.1, arrange member.2)) ∧
      arrange (.object members) = .object others

/-- Members may stay as they are. -/
theorem Arrangement.unchanged : Arrangement id where
  null := rfl
  bool _ := rfl
  number _ := rfl
  string _ := rfl
  array items := congrArg Json.array (List.map_id items).symm
  object members _ := ⟨members, .of_eq (List.map_id members).symm, rfl⟩

/-- **Key order** is an arrangement. -/
theorem Arrangement.inKeyOrder : Arrangement inKeyOrder where
  null := rfl
  bool _ := rfl
  number _ := rfl
  string _ := rfl
  array := inKeyOrder_array
  object members distinct := by
    refine ⟨_, Entries.inOrder_perm ?_, inKeyOrder_object members⟩
    rwa [List.map_map]

/-- An object with one member keeps its form. -/
theorem Arrangement.object_singleton {arrange : Json → Json} (arrangement : Arrangement arrange)
    (key : String) (value : Json) :
    arrange (.object [(key, value)]) = .object [(key, arrange value)] := by
  obtain ⟨others, perm, arranged⟩ := arrangement.object [(key, value)] (List.nodup_singleton key)
  rw [arranged, List.perm_singleton.mp perm]

end Json

end SchemaCompiler
