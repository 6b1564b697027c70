/-
**Schemas that are changed in place.**

A new version whose items keep their ids and their order has nothing that was added or removed, as
long as ids are distinct: every item is the partner of what it became. Its differences are those of
the items, one after the other. A schema that is not changed at all is the simplest case, and then
distinct ids are needed too: of two items with one id only the first is found, and the other one is
nobody's partner.

* `Pairing.partners_map`, `Pairing.pairs_map` — the partners of items that were changed in place.
* `Table.changes_map`, `Database.changes_map` — the differences are those of the items.
* `Database.changes_itself_eq_nil_iff` — which schemas have no differences from themselves.
-/

import SchemaCompiler.Proofs.Migration.Duality
import SchemaCompiler.Validation.Database

namespace SchemaCompiler

namespace Pairing

variable {α : Type} {identity name : α → String} {items : List α} {f : α → α}

/-! ### Nothing added, nothing removed -/

theorem added_eq_nil_iff {places : List (Option Nat)} {new : List α} :
    added places new = [] ↔ ∀ place < new.length, some place ∈ places := by
  rw [added, List.map_eq_nil_iff, List.filter_eq_nil_iff]
  constructor
  · intro partnered place inside
    have entry : (new[place], place) ∈ new.zipIdx := by simp [List.mem_zipIdx_iff_getElem?]
    simpa using partnered _ entry
  · intro partnered entry member
    have inside : entry.2 < new.length := by
      have atPlace := List.mem_zipIdx_iff_getElem?.mp member
      exact (List.getElem?_eq_some_iff.mp atPlace).1
    simpa using partnered entry.2 inside

/-! ### Items that keep their ids -/

/-- **Items that keep their ids are partners of what they became**, place by place. -/
theorem partners_map (distinct : (items.map identity).Nodup)
    (keeps : ∀ item, identity (f item) = identity item) :
    partners identity name items (items.map f) = (List.range items.length).map some := by
  have sameIds : (items.map f).map identity = items.map identity := by
    rw [List.map_map]
    exact List.map_congr_left fun item _ => keeps item
  refine List.ext_getElem? fun place => ?_
  cases atPlace : items[place]? with
  | none =>
    have outside := List.getElem?_eq_none_iff.mp atPlace
    rw [List.getElem?_eq_none (by simpa using outside), List.getElem?_eq_none (by simpa using outside)]
  | some item =>
    obtain ⟨inside, -⟩ := List.getElem?_eq_some_iff.mp atPlace
    have found : (items.map f).findIdx? (identity · == identity item) = some place := by
      rw [findIdx?_identity_iff (sameIds ▸ distinct)]
      exact ⟨f item, by simp [atPlace], keeps item⟩
    rw [partners_of_findIdx? atPlace found]
    simp [inside]

theorem added_map (distinct : (items.map identity).Nodup)
    (keeps : ∀ item, identity (f item) = identity item) :
    added (partners identity name items (items.map f)) (items.map f) = [] := by
  rw [partners_map distinct keeps]
  refine added_eq_nil_iff.mpr fun place inside => ?_
  rw [List.length_map] at inside
  simpa using inside

theorem removed_map (distinct : (items.map identity).Nodup)
    (keeps : ∀ item, identity (f item) = identity item) :
    removed items (partners identity name items (items.map f)) = [] := by
  rw [partners_map distinct keeps, removed, List.map_eq_nil_iff, List.filter_eq_nil_iff]
  rintro ⟨item, place⟩ member
  obtain ⟨_, -, rfl⟩ := List.mem_map.mp (List.of_mem_zip member).2
  exact Bool.false_ne_true

/-- **The pairs of items that keep their ids** are the items with what they became. -/
theorem pairs_map (distinct : (items.map identity).Nodup)
    (keeps : ∀ item, identity (f item) = identity item) :
    pairs items (partners identity name items (items.map f)) (items.map f) =
      items.map fun item => (item, f item) := by
  have inPlace : ∀ entry ∈ items.zipIdx,
      ((((List.range items.length).map some)[entry.2]?).join.bind fun target =>
        (items.map f)[target]?.bind fun other => some (entry.1, other)) =
          some (entry.1, f entry.1) := by
    intro entry member
    have atPlace := List.mem_zipIdx_iff_getElem?.mp member
    obtain ⟨inside, isItem⟩ := List.getElem?_eq_some_iff.mp atPlace
    simp [inside, isItem]
  rw [partners_map distinct keeps, pairs, zip_eq_map_zipIdx (by simp), List.filterMap_map]
  calc _ = items.zipIdx.filterMap fun entry => some (entry.1, f entry.1) :=
        List.filterMap_congr inPlace
    _ = items.zipIdx.map fun entry => (entry.1, f entry.1) := by rw [List.filterMap_eq_map']
    _ = (items.zipIdx.map Prod.fst).map fun item => (item, f item) := by rw [List.map_map]; rfl
    _ = items.map fun item => (item, f item) := by rw [List.zipIdx_map_fst]

/-! ### Items compared with themselves -/

/-- **Nothing is added to some items** only when their ids are distinct: of two items with one id,
the second one is nobody's partner. -/
theorem nodup_of_added_self (unchanged : added (partners identity name items items) items = []) :
    (items.map identity).Nodup := by
  have partnered := added_eq_nil_iff.mp unchanged
  refine List.pairwise_iff_getElem.mpr fun first second insideFirst insideSecond less same => ?_
  rw [List.length_map] at insideFirst insideSecond
  rw [List.getElem_map, List.getElem_map] at same
  obtain ⟨place, isPartner⟩ := List.mem_iff_getElem?.mp (partnered second insideSecond)
  obtain ⟨inside, -⟩ := List.getElem?_eq_some_iff.mp isPartner
  rw [length_partners] at inside
  have atPlace : items[place]? = some items[place] := List.getElem?_eq_getElem inside
  obtain ⟨target, found⟩ :
      ∃ target, items.findIdx? (identity · == identity items[place]) = some target := by
    rw [← Option.isSome_iff_exists, List.findIdx?_isSome, List.any_eq_true]
    exact ⟨items[place], List.getElem_mem inside, beq_self_eq_true _⟩
  have isTarget : target = second := by
    have byId := (partners_of_findIdx? atPlace found).symm.trans isPartner
    simpa using byId
  -- The partner is the first item with its id, but the first of the two stands in front of it.
  obtain ⟨_, hasId, isFirst⟩ := List.findIdx?_eq_some_iff_getElem.mp (isTarget ▸ found)
  refine absurd ?_ (isFirst first less)
  rw [same]
  exact hasId

end Pairing

/-! ### Differences of what is changed in place -/

section Changed

variable {α β : Type} [DecidableEq α] {change : α → α → β} {old new : α}

theorem changed_eq_nil_iff : changed change old new = [] ↔ old = new := by
  simp [changed]

theorem changed_self (change : α → α → β) (value : α) : changed change value value = [] :=
  changed_eq_nil_iff.mpr rfl

theorem mem_changed_iff {item : β} :
    item ∈ changed change old new ↔ old ≠ new ∧ item = change old new := by
  by_cases same : old = new <;> simp [changed, same]

end Changed

theorem Column.changes_self (c : Column) : c.changes c = [] := by
  have carried : ∀ constraint ∈ c.constraints, (!c.has constraint) = false := by
    intro constraint member
    simpa [has] using member
  have noNew : c.newConstraints c = [] := by
    refine List.filter_eq_nil_iff.mpr fun constraint member => ?_
    rw [carried constraint member]
    exact Bool.false_ne_true
  rw [changes_eq, noNew]
  simp [valueChanges, changed_self]

namespace Table

variable {t : Table}

/-- **The differences of columns that keep their ids** are those of each of them. -/
theorem changes_map (distinct : t.HasDistinctIds) {f : Column → Column}
    (keeps : ∀ c, (f c).id = c.id) :
    t.changes { t with columns := t.columns.map f } =
      t.columns.flatMap fun c => (c.changes (f c)).map (.columnChanged t.name (f c).name) := by
  simp only [changes, columnPartners, Pairing.added_map distinct keeps,
    Pairing.removed_map distinct keeps, Pairing.pairs_map distinct keeps, changed_self,
    List.map_nil, List.nil_append, List.flatMap_map]

/-- **A table has no differences from itself** exactly when the ids of its columns are distinct. -/
theorem changes_self_eq_nil_iff (t : Table) : t.changes t = [] ↔ t.HasDistinctIds := by
  constructor
  · intro unchanged
    simp only [changes, List.append_eq_nil_iff, List.map_eq_nil_iff] at unchanged
    exact Pairing.nodup_of_added_self unchanged.1.1.2
  · intro distinct
    have inPlace := changes_map distinct (f := fun c => c) fun _ => rfl
    rw [List.map_id'] at inPlace
    simp [inPlace, Column.changes_self]

end Table

namespace Database

variable {db : Database}

/-- **The differences of tables that keep their ids** are those of each of them. -/
theorem changes_map (distinct : (db.tables.map (·.id)).Nodup) {f : Table → Table}
    (keeps : ∀ t, (f t).id = t.id) :
    db.changes { db with tables := db.tables.map f } = db.tables.flatMap fun t => t.changes (f t) := by
  simp only [changes, tablePartners, Pairing.added_map distinct keeps,
    Pairing.removed_map distinct keeps, Pairing.pairs_map distinct keeps, List.map_nil,
    List.nil_append, List.flatMap_map]

/-- **A schema has no differences from itself** exactly when the ids of its tables are distinct, and
those of the columns of each table. -/
theorem changes_itself_eq_nil_iff (db : Database) : db.changes db = [] ↔ db.HasDistinctIds := by
  have ofTables (distinct : (db.tables.map (·.id)).Nodup) :
      db.changes db = [] ↔ ∀ t ∈ db.tables, t.HasDistinctIds := by
    have inPlace := changes_map distinct (f := fun t => t) fun _ => rfl
    rw [List.map_id'] at inPlace
    rw [inPlace, List.flatMap_eq_nil_iff]
    exact forall₂_congr fun t _ => t.changes_self_eq_nil_iff
  constructor
  · intro unchanged
    have added := unchanged
    simp only [changes, List.append_eq_nil_iff, List.map_eq_nil_iff] at added
    have distinct := Pairing.nodup_of_added_self added.1.1
    exact ⟨distinct, (ofTables distinct).mp unchanged⟩
  · exact fun distinct => (ofTables distinct.tables).mpr distinct.columns

/-! ### An id that was used twice -/

/-- The last name was made from the first name, and its id was left as it was. -/
def staff : Database :=
  { id := "d", name := "office",
    tables :=
      [ { id := "s", name := "staff",
          columns :=
            [ { id := "k", name := "id", dataType := .integer, nullable := false,
                constraints := [.primaryKey] },
              { id := "n", name := "first_name", dataType := .text },
              { id := "n", name := "last_name", dataType := .text } ] } ] }

/-- Nothing is wrong with the staff in any dialect, and yet it differs from itself. -/
theorem changes_staff_self :
    (∀ d, (staff.validate d).errors = []) ∧
      staff.changes staff =
        [ .columnAdded "staff" "last_name",
          .columnChanged "staff" "first_name" (.renamed "last_name" "first_name") ] := by
  refine ⟨fun d => ?_, by decide⟩
  cases d <;> decide

end Database

end SchemaCompiler
