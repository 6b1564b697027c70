/-
**Reading back what was written.**

An encoder and a decoder fit when the decoder makes of the written value the value it was written
from, whichever arrangement the members of its objects have:

* `readsBack_oneOf` — a vocabulary fits when its names are distinct.
* `readsBack_list`, `readsBack_option`, `readsBack_dictionary` — arrays, nulls and objects with
  arbitrary keys fit when their parts do. The members of an object are read in the order in which
  they stand, and the dictionary of the results does not depend on it.
* `Takes` — fields take a value from all members that hold what was written of each field;
  `Takes.map` and `Takes.seq` build this up as the decoder is built up.
* `readsBack_record` — a record with distinct names of fields fits when its fields do. A field that
  was left out has its default back.
-/

import Mathlib.Data.List.Perm.Basic
import SchemaCompiler.Codec.Basic
import SchemaCompiler.Proofs.Codec.Arrangement
import SchemaCompiler.Proofs.Traversal

namespace SchemaCompiler

open Decode

variable {α β : Type} {arrange : Json → Json}

/-- The decoder makes of what is written of a value, arranged, that value. -/
def ReadsBack (arrange : Json → Json) (decoder : Decoder α) (encode : α → Json) (value : α) : Prop :=
  decoder (arrange (encode value)) = .ok value

/-- **A variant is found by its name** when the names are distinct. -/
theorem Decode.named_name {all : List α} {name : α → String} (distinct : (all.map name).Nodup)
    {variant : α} (listed : variant ∈ all) : Decode.named all name (name variant) = .ok variant := by
  unfold Decode.named
  split
  · rename_i other found
    have sameName : name other = name variant := by simpa using List.find?_some found
    rw [List.inj_on_of_nodup_map distinct (List.mem_of_find?_eq_some found) listed sameName]
  · rename_i notFound
    exact absurd (List.find?_eq_none.mp notFound variant listed) (by simp)

namespace Json.Arrangement

variable (arrangement : Arrangement arrange)
include arrangement

/-! ### Single values -/

theorem readsBack_text (text : String) : ReadsBack arrange Decode.text .string text := by
  rw [ReadsBack, arrangement.string]
  rfl

theorem readsBack_bool (value : Bool) : ReadsBack arrange Decode.bool .bool value := by
  rw [ReadsBack, arrangement.bool]
  rfl

theorem below_arranged {n bound : Nat} (less : n < bound) (wanted : String) :
    Decode.below bound wanted (arrange (.natural n)) = .ok n := by
  rw [Json.natural, arrangement.number]
  simp [Decode.below, less]

theorem readsBack_word32 (n : UInt32) : ReadsBack arrange Decode.word32 Encode.word32 n := by
  rw [ReadsBack, Decode.word32, Encode.word32, arrangement.below_arranged n.toNat_lt]
  exact congrArg Except.ok (UInt32.ofNat_toNat)

theorem readsBack_word64 (n : UInt64) : ReadsBack arrange Decode.word64 Encode.word64 n := by
  rw [ReadsBack, Decode.word64, Encode.word64, arrangement.below_arranged n.toNat_lt]
  exact congrArg Except.ok (UInt64.ofNat_toNat)

/-- **A vocabulary** is read back when its names are distinct. -/
theorem readsBack_oneOf {all : List α} {name : α → String} (distinct : (all.map name).Nodup)
    {variant : α} (listed : variant ∈ all) :
    ReadsBack arrange (Decode.oneOf all name) (fun variant => .string (name variant)) variant := by
  rw [ReadsBack, arrangement.string]
  exact Decode.named_name distinct listed

/-! ### Values made of values -/

/-- A value that is not written as null is read back also where null is allowed. -/
theorem readsBack_option {decoder : Decoder α} {encode : α → Json} {value : Option α}
    (each : ∀ inner ∈ value, ReadsBack arrange decoder encode inner)
    (solid : ∀ inner ∈ value, arrange (encode inner) ≠ .null) :
    ReadsBack arrange (Decode.option decoder) (Encode.option encode) value := by
  cases value with
  | none => exact congrArg (Decode.option decoder) arrangement.null
  | some inner =>
    have read : decoder (arrange (encode inner)) = .ok inner := each inner rfl
    have notNull := solid inner rfl
    show Decode.option decoder (arrange (encode inner)) = _
    cases written : arrange (encode inner) <;> simp_all [Decode.option, Except.map]

/-- Arrays are read back item by item. -/
theorem readsBack_list {decoder : Decoder α} {encode : α → Json} (items : List α)
    (each : ∀ item ∈ items, ReadsBack arrange decoder encode item) :
    ReadsBack arrange (Decode.list decoder) (Encode.list encode) items := by
  rw [ReadsBack, Encode.list, arrangement.array]
  refine Traversal.mapM_eq_ok_iff.mpr ?_
  rw [List.map_map, List.forall₂_map_left_iff, List.forall₂_same]
  exact each

theorem readsBack_optionalText (text : Option String) :
    ReadsBack arrange (Decode.option Decode.text) (Encode.option .string) text :=
  arrangement.readsBack_option (fun inner _ => arrangement.readsBack_text inner)
    fun inner _ isNull => nomatch (arrangement.string inner).symm.trans isNull

theorem readsBack_optionalWord32 (n : Option UInt32) :
    ReadsBack arrange (Decode.option Decode.word32) (Encode.option Encode.word32) n :=
  arrangement.readsBack_option (fun inner _ => arrangement.readsBack_word32 inner)
    fun _ _ isNull => nomatch (arrangement.number _).symm.trans isNull

theorem readsBack_optionalWord64 (n : Option UInt64) :
    ReadsBack arrange (Decode.option Decode.word64) (Encode.option Encode.word64) n :=
  arrangement.readsBack_option (fun inner _ => arrangement.readsBack_word64 inner)
    fun _ _ isNull => nomatch (arrangement.number _).symm.trans isNull

theorem readsBack_texts (texts : List String) :
    ReadsBack arrange (Decode.list Decode.text) Json.texts texts :=
  arrangement.readsBack_list texts fun text _ => arrangement.readsBack_text text

/-- **The members of an object** are read back in some order. -/
theorem exists_pairs {key : String → Except DecodeError β} (keyOf : β → String)
    {decoder : Decoder α} {encode : α → Json} {entries : List (β × α)}
    (distinct : (entries.map fun entry => keyOf entry.1).Nodup)
    (keys : ∀ entry ∈ entries, key (keyOf entry.1) = .ok entry.1)
    (each : ∀ entry ∈ entries, ReadsBack arrange decoder encode entry.2) :
    ∃ others, others.Perm entries ∧
      Decode.pairs key decoder
        (arrange (.object (entries.map fun entry => (keyOf entry.1, encode entry.2)))) =
          .ok others := by
  obtain ⟨members, perm, arranged⟩ := arrangement.object
    (entries.map fun entry => (keyOf entry.1, encode entry.2)) (by rwa [List.map_map])
  rw [List.map_map] at perm
  have matched : List.Forall₂
      (fun member entry =>
        (do
          let name ← key member.1
          let value ← decoder member.2
          return (name, value)) = Except.ok entry)
      (entries.map fun entry => (keyOf entry.1, arrange (encode entry.2))) entries := by
    rw [List.forall₂_map_left_iff, List.forall₂_same]
    intro entry listed
    rw [keys entry listed, show decoder _ = _ from each entry listed]
    rfl
  obtain ⟨others, read, same⟩ := List.perm_comp_forall₂ perm matched
  refine ⟨others, same, ?_⟩
  rw [arranged]
  exact Traversal.mapM_eq_ok_iff.mpr read

/-- **Dictionaries** are read back value by value. -/
theorem readsBack_dictionary {decoder : Decoder α} {encode : α → Json} {d : Dictionary α}
    (each : ∀ entry ∈ d.entries, ReadsBack arrange decoder encode entry.2) :
    ReadsBack arrange (Decode.dictionary decoder) (Encode.dictionary encode) d := by
  obtain ⟨others, perm, read⟩ : ∃ others, others.Perm d.entries ∧
      Decode.pairs .ok decoder (arrange (Encode.dictionary encode d)) = .ok others :=
    arrangement.exists_pairs (fun key => key) d.nodup_keys (fun _ _ => rfl) each
  rw [ReadsBack, Decode.dictionary, read]
  exact congrArg Except.ok (Dictionary.ext (Entries.inOrder_eq_of_perm perm d.increasing))

end Json.Arrangement

/-! ### Fields of records -/

/-- The entries of the keys that have a value. -/
def Encode.written (slots : List (α × Option β)) : List (α × β) :=
  slots.filterMap fun slot => slot.2.map (slot.1, ·)

open Encode (written)

theorem Encode.mem_written {slots : List (α × Option β)} {key : α} {value : β} :
    (key, value) ∈ written slots ↔ (key, some value) ∈ slots := by
  simp only [written, List.mem_filterMap, Option.map_eq_some_iff, Prod.mk.injEq]
  constructor
  · rintro ⟨slot, listed, _, holds, rfl, rfl⟩
    exact holds ▸ listed
  · intro listed
    exact ⟨_, listed, value, rfl, rfl, rfl⟩

theorem Encode.keys_written_sublist (slots : List (α × Option β)) :
    ((written slots).map (·.1)).Sublist (slots.map (·.1)) := by
  induction slots with
  | nil => exact .slnil
  | cons slot rest ih =>
    obtain ⟨key, _ | value⟩ := slot
    · exact ih.cons _
    · exact ih.cons_cons _

/-- A name of a field and what is written of it, if anything is. -/
abbrev Slot := String × Option Json

@[simp]
theorem Encode.written_nil : written ([] : List (α × Option β)) = [] := rfl

@[simp]
theorem Encode.written_cons_some (key : α) (value : β) (slots : List (α × Option β)) :
    written ((key, some value) :: slots) = (key, value) :: written slots :=
  List.filterMap_cons_some rfl

@[simp]
theorem Encode.written_cons_map (name : String) (encode : α → Json) (value : Option α)
    (slots : List Slot) :
    written ((name, value.map encode) :: slots) = present name encode value ++ written slots := by
  cases value <;> rfl

@[simp]
theorem Encode.written_cons_ite (key : α) (value : β) (slots : List (α × Option β))
    (skipped : Prop) [Decidable skipped] :
    written ((key, if skipped then none else some value) :: slots) =
      (if skipped then [] else [(key, value)]) ++ written slots := by
  split <;> rfl

/-- What is found in the arranged members is what was written. -/
theorem Encode.find?_of_perm {slots : List Slot} (distinct : (slots.map (·.1)).Nodup)
    {others : List (String × Json)}
    (perm : others.Perm ((written slots).map fun member => (member.1, arrange member.2)))
    {slot : Slot} (listed : slot ∈ slots) :
    Entries.find? slot.1 others = slot.2.map arrange := by
  have othersDistinct : (others.map (·.1)).Nodup := by
    rw [(perm.map (·.1)).nodup_iff, List.map_map]
    exact (Encode.keys_written_sublist slots).nodup distinct
  refine Option.ext fun value => ?_
  rw [Entries.find?_eq_some_iff othersDistinct, perm.mem_iff, List.mem_map, Option.map_eq_some_iff]
  constructor
  · rintro ⟨⟨name, original⟩, isWritten, same⟩
    obtain ⟨rfl, rfl⟩ := Prod.mk.inj same
    have isSlot : (slot.1, some original) = slot :=
      List.inj_on_of_nodup_map distinct (Encode.mem_written.mp isWritten) listed rfl
    exact ⟨original, (congrArg (·.2) isSlot).symm, rfl⟩
  · rintro ⟨original, holds, rfl⟩
    exact ⟨(slot.1, original), Encode.mem_written.mpr (holds ▸ listed), rfl⟩

/-- Fields take a value from all members that hold, arranged, what was written of each field. -/
structure Takes (arrange : Json → Json) (fields : Fields α) (slots : List Slot) (value : α) :
    Prop where
  names : fields.names = slots.map (·.1)
  run : ∀ members : Members,
    (∀ slot ∈ slots, Entries.find? slot.1 members.values = slot.2.map arrange) →
      fields.run members = .ok value

namespace Takes

variable {decoder : Decoder α} {encode : α → Json} {value : α}

theorem required (name : String) (read : ReadsBack arrange decoder encode value) :
    Takes arrange (Decode.required name decoder) [(name, some (encode value))] value where
  names := rfl
  run members holds := by
    have found := holds _ List.mem_cons_self
    rw [Decode.required]
    simp only [found, Option.map_some]
    rw [show decoder _ = _ from read]
    rfl

theorem optional (name : String) (default : α) (read : ReadsBack arrange decoder encode value) :
    Takes arrange (Decode.optional name decoder default) [(name, some (encode value))] value where
  names := rfl
  run members holds := by
    have found := holds _ List.mem_cons_self
    rw [Decode.optional]
    simp only [found, Option.map_some]
    rw [show decoder _ = _ from read]
    rfl

/-- A field that was left out has its default back. -/
theorem absent (name : String) (default : α) :
    Takes arrange (Decode.optional name decoder default) [(name, none)] default where
  names := rfl
  run members holds := by
    have found := holds _ List.mem_cons_self
    rw [Decode.optional]
    simp only [found, Option.map_none]

/-- A field may be left out when it holds its default. -/
theorem skippable (name : String) {default : α} {skipped : Prop} [Decidable skipped]
    (isDefault : skipped → value = default) (read : ReadsBack arrange decoder encode value) :
    Takes arrange (Decode.optional name decoder default)
      [(name, if skipped then none else some (encode value))] value := by
  split
  · rename_i holds
    exact isDefault holds ▸ absent name value
  · exact optional name default read

/-- A field of a value that may be absent is left out when it is. -/
theorem nullable {encode : β → Json} {decoder : Decoder β} {value : Option β} (name : String)
    (read : ReadsBack arrange (Decode.option decoder) (Encode.option encode) value) :
    Takes arrange (Decode.nullable name decoder) [(name, value.map encode)] value := by
  cases value with
  | none => exact absent name none
  | some inner => exact optional name none read

theorem map {fields : Fields α} {slots : List Slot} (f : α → β)
    (takes : Takes arrange fields slots value) : Takes arrange (f <$> fields) slots (f value) where
  names := takes.names
  run members holds := congrArg (Except.map f) (takes.run members holds)

theorem seq {first : Fields (α → β)} {second : Fields α} {f : α → β} {front back : List Slot}
    (takesFirst : Takes arrange first front f) (takesSecond : Takes arrange second back value) :
    Takes arrange (first <*> second) (front ++ back) (f value) where
  names := by
    rw [List.map_append, ← takesFirst.names, ← takesSecond.names]
    rfl
  run members holds := by
    have inFront := takesFirst.run members fun slot listed =>
      holds slot (List.mem_append_left back listed)
    have inBack := takesSecond.run members fun slot listed =>
      holds slot (List.mem_append_right front listed)
    show both (first.run members) (second.run members) = _
    rw [inFront, inBack]
    rfl

end Takes

namespace Json.Arrangement

variable (arrangement : Arrangement arrange)
include arrangement

/-- **A record** is read back when its fields are taken. -/
theorem readsBack_record {typeName : String} {fields : Fields α} {slots : List Slot}
    {encode : α → Json} {value : α} (takes : Takes arrange fields slots value)
    (distinct : fields.names.Nodup) (isWritten : encode value = .object (written slots)) :
    ReadsBack arrange (Decode.record typeName fields) encode value := by
  rw [takes.names] at distinct
  have keysDistinct : ((written slots).map (·.1)).Nodup :=
    (Encode.keys_written_sublist slots).nodup distinct
  obtain ⟨others, perm, arranged⟩ := arrangement.object (written slots) keysDistinct
  have othersDistinct : (others.map (·.1)).Nodup := by
    rw [(perm.map (·.1)).nodup_iff, List.map_map]
    exact keysDistinct
  have single : (fields.names.find? fun name => 1 < others.countP (·.1 = name)) = none := by
    refine List.find?_eq_none.mpr fun name _ => ?_
    have atMostOne := List.nodup_iff_count_le_one.mp othersDistinct name
    rw [List.count, List.countP_map] at atMostOne
    exact fun repeated => absurd (of_decide_eq_true repeated) (Nat.not_lt.mpr atMostOne)
  have taken := takes.run ⟨typeName, fields.names, false, others⟩ fun slot listed =>
    Encode.find?_of_perm distinct perm listed
  rw [ReadsBack, isWritten, arranged, Decode.record]
  simp only [single, taken]
  rfl

end Json.Arrangement

end SchemaCompiler
