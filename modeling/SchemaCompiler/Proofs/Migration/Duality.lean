/-
**Differences in both directions.**

The differences from one version of a schema to another, and those back, say the same. When ids are
distinct in each version, what is added one way is removed the other way, in the same order, and what
changed about a pair of columns is what changed about the pair turned round, read backwards.

* `Column.perm_changes` — the changes of a column back are its changes, each read backwards.
* `Table.mirrored`, `Database.mirrored` — the differences of tables and of databases.
-/

import SchemaCompiler.Migration.Difference
import SchemaCompiler.Proofs.Migration.Partners

namespace SchemaCompiler

/-! ### Changes of columns -/

/-- A change read backwards. -/
def ColumnChange.reversed : ColumnChange → ColumnChange
  | .renamed old new => .renamed new old
  | .dataType old new => .dataType new old
  | .nullability nullable => .nullability !nullable
  | .length old new => .length new old
  | .precision old new => .precision new old
  | .default old new => .default new old
  | .constraintAdded constraint => .constraintRemoved constraint
  | .constraintRemoved constraint => .constraintAdded constraint

theorem changed_comm {α β : Type} [DecidableEq α] {change : α → α → β} {turn : β → β}
    (turned : ∀ old new, old ≠ new → turn (change old new) = change new old) (old new : α) :
    (changed change old new).map turn = changed change new old := by
  unfold changed
  by_cases same : old = new
  · simp [same]
  · simp [same, Ne.symm same, turned old new same]

namespace Column

/-- What changed apart from the constraints. -/
def valueChanges (old new : Column) : List ColumnChange :=
  changed .renamed old.name new.name ++
    changed .dataType old.dataType new.dataType ++
    changed (fun _ notNull => .nullability !notNull) old.isNotNull new.isNotNull ++
    changed .length old.length new.length ++
    changed .precision (old.precision, old.scale) (new.precision, new.scale) ++
    changed .default old.default? new.default?

/-- The constraints that only a new version of a column carries. -/
def newConstraints (old new : Column) : List Constraint :=
  new.constraints.filter (!old.has ·)

theorem changes_eq (old new : Column) :
    old.changes new = valueChanges old new ++
      ((newConstraints old new).map .constraintAdded ++
        (newConstraints new old).map .constraintRemoved) :=
  List.append_assoc _ _ _

theorem reversed_valueChanges (old new : Column) :
    (valueChanges old new).map .reversed = valueChanges new old := by
  have nullability : ∀ old new : Bool, old ≠ new →
      ColumnChange.reversed (.nullability !new) = .nullability !old := by
    intro old new differ
    cases old <;> cases new <;> simp_all [ColumnChange.reversed]
  simp only [valueChanges, List.map_append]
  rw [changed_comm fun _ _ _ => rfl, changed_comm fun _ _ _ => rfl, changed_comm nullability,
    changed_comm fun _ _ _ => rfl, changed_comm fun _ _ _ => rfl, changed_comm fun _ _ _ => rfl]

/-- **The changes of a column back** are its changes, each read backwards; in both directions the new
constraints are named before those that are gone. -/
theorem perm_changes (old new : Column) :
    (new.changes old).Perm ((old.changes new).map .reversed) := by
  rw [changes_eq, changes_eq, List.map_append, List.map_append, List.map_map, List.map_map,
    reversed_valueChanges]
  exact List.perm_append_comm.append_left _

end Column

/-! ### What differences speak of -/

namespace SchemaChange

/-- The name of a table that was added. -/
def addedTable? : SchemaChange → Option String
  | .tableAdded table => some table
  | _ => none

/-- The name of a table that was removed. -/
def removedTable? : SchemaChange → Option String
  | .tableRemoved table => some table
  | _ => none

/-- The old and the new name of a table. -/
def renamedTable? : SchemaChange → Option (String × String)
  | .tableRenamed old new => some (old, new)
  | _ => none

/-- The name of a column that was added. -/
def addedColumn? : SchemaChange → Option String
  | .columnAdded _ column => some column
  | _ => none

/-- The name of a column that was removed. -/
def removedColumn? : SchemaChange → Option String
  | .columnRemoved _ column => some column
  | _ => none

/-- What changed about a column. -/
def changedColumn? : SchemaChange → Option (String × ColumnChange)
  | .columnChanged _ column change => some (column, change)
  | _ => none

/-- Whether a difference is within a table. -/
def isWithinTable (change : SchemaChange) : Bool :=
  change.addedTable?.isNone && change.removedTable?.isNone

end SchemaChange

/-! ### Tables -/

namespace Table

/-- The ids of the columns are distinct. -/
def HasDistinctIds (t : Table) : Prop :=
  (t.columns.map (·.id)).Nodup

instance (t : Table) : Decidable t.HasDistinctIds :=
  inferInstanceAs (Decidable (t.columns.map (·.id)).Nodup)

/-- The columns of a table with their partners in a new version of it. -/
def matched (old new : Table) : List (Column × Column) :=
  Pairing.pairs old.columns (old.columnPartners new) new.columns

/-- The differences of two tables in one direction and in the other say the same. -/
structure Mirrored (a b : Table) : Prop where
  partners : Pairing.Inverse (a.columnPartners b) (b.columnPartners a)
  matched : (b.matched a).Perm ((a.matched b).map Prod.swap)
  renamed : (b.changes a).filterMap (·.renamedTable?) =
    ((a.changes b).filterMap (·.renamedTable?)).map Prod.swap
  added : (a.changes b).filterMap (·.addedColumn?) = (b.changes a).filterMap (·.removedColumn?)
  removed : (a.changes b).filterMap (·.removedColumn?) = (b.changes a).filterMap (·.addedColumn?)
  changed : (a.changes b).filterMap (·.changedColumn?) =
    (a.matched b).flatMap fun (c, other) => (c.changes other).map (other.name, ·)
  changedBack : (b.changes a).filterMap (·.changedColumn?) =
    (b.matched a).flatMap fun (other, c) => (other.changes c).map (c.name, ·)
  reversed : ∀ pair ∈ a.matched b,
    (pair.2.changes pair.1).Perm ((pair.1.changes pair.2).map .reversed)
  length : (a.changes b).length = (b.changes a).length

theorem filterMap_changes {β : Type} (f : SchemaChange → Option β) (a b : Table) :
    (a.changes b).filterMap f =
      (SchemaCompiler.changed .tableRenamed a.name b.name).filterMap f ++
        (Pairing.added (a.columnPartners b) b.columns).filterMap
          (fun c => f (.columnAdded b.name c.name)) ++
        (Pairing.removed a.columns (a.columnPartners b)).filterMap
          (fun c => f (.columnRemoved b.name c.name)) ++
        (a.matched b).flatMap fun (c, other) =>
          (c.changes other).filterMap fun change => f (.columnChanged b.name other.name change) := by
  simp [changes, matched, List.filterMap_append, List.filterMap_map, List.filterMap_flatMap]

/-! What the differences of two tables say of each kind. -/

theorem renamedTable?_changes (a b : Table) :
    (a.changes b).filterMap (·.renamedTable?) = SchemaCompiler.changed Prod.mk a.name b.name := by
  rw [filterMap_changes]
  by_cases same : a.name = b.name <;>
    simp [SchemaChange.renamedTable?, SchemaCompiler.changed, same]

theorem addedColumn?_changes (a b : Table) :
    (a.changes b).filterMap (·.addedColumn?) =
      (Pairing.added (a.columnPartners b) b.columns).map (·.name) := by
  rw [filterMap_changes]
  by_cases same : a.name = b.name <;>
    simp [SchemaChange.addedColumn?, SchemaCompiler.changed, same]

theorem removedColumn?_changes (a b : Table) :
    (a.changes b).filterMap (·.removedColumn?) =
      (Pairing.removed a.columns (a.columnPartners b)).map (·.name) := by
  rw [filterMap_changes]
  by_cases same : a.name = b.name <;>
    simp [SchemaChange.removedColumn?, SchemaCompiler.changed, same]

theorem changedColumn?_changes (a b : Table) :
    (a.changes b).filterMap (·.changedColumn?) =
      (a.matched b).flatMap fun (c, other) => (c.changes other).map (other.name, ·) := by
  rw [filterMap_changes]
  by_cases same : a.name = b.name <;>
    simp [SchemaChange.changedColumn?, SchemaCompiler.changed, same]

theorem isWithinTable_changes {a b : Table} {change : SchemaChange} (member : change ∈ a.changes b) :
    change.isWithinTable = true := by
  simp only [changes, SchemaCompiler.changed, List.mem_append, List.mem_map, List.mem_flatMap]
    at member
  rcases member with ((renamed | ⟨c, -, rfl⟩) | ⟨c, -, rfl⟩) | ⟨pair, -, change, -, rfl⟩
  · split at renamed
    · cases renamed
    · cases List.mem_singleton.mp renamed
      rfl
  · rfl
  · rfl
  · rfl

theorem length_changes (a b : Table) :
    (a.changes b).length =
      (SchemaCompiler.changed Prod.mk a.name b.name).length +
        (Pairing.added (a.columnPartners b) b.columns).length +
        (Pairing.removed a.columns (a.columnPartners b)).length +
        ((a.matched b).map fun (c, other) => (c.changes other).length).sum := by
  have renamed : (SchemaCompiler.changed SchemaChange.tableRenamed a.name b.name).length =
      (SchemaCompiler.changed Prod.mk a.name b.name).length := by
    by_cases same : a.name = b.name <;> simp [SchemaCompiler.changed, same]
  simp only [changes, matched, List.length_append, List.length_map, List.length_flatMap, renamed]

/-! ### Tables in both directions -/

variable {a b : Table}

theorem changed_swap {α : Type} [DecidableEq α] (old new : α) :
    (SchemaCompiler.changed Prod.mk old new).map Prod.swap = SchemaCompiler.changed Prod.mk new old :=
  changed_comm (fun _ _ _ => rfl) old new

/-- **The differences of two tables mirror those back** when the ids of the columns are distinct. -/
theorem mirrored (distinctA : a.HasDistinctIds) (distinctB : b.HasDistinctIds) : a.Mirrored b := by
  have partners : Pairing.Inverse (a.columnPartners b) (b.columnPartners a) :=
    Pairing.inverse_partners distinctA distinctB
  have lengthA : (a.columnPartners b).length = a.columns.length := Pairing.length_partners ..
  have lengthB : (b.columnPartners a).length = b.columns.length := Pairing.length_partners ..
  have added := Pairing.added_eq_removed partners lengthB
  have removed := Pairing.added_eq_removed partners.symm lengthA
  have matched : (b.matched a).Perm ((a.matched b).map Prod.swap) :=
    Pairing.perm_pairs partners lengthA lengthB
  refine
    { partners, matched
      renamed := by rw [renamedTable?_changes, renamedTable?_changes, changed_swap]
      added := by rw [addedColumn?_changes, removedColumn?_changes, added]
      removed := by rw [addedColumn?_changes, removedColumn?_changes, removed]
      changed := changedColumn?_changes a b
      changedBack := changedColumn?_changes b a
      reversed := fun pair _ => Column.perm_changes pair.1 pair.2
      length := ?_ }
  have renamed : (SchemaCompiler.changed Prod.mk b.name a.name).length =
      (SchemaCompiler.changed Prod.mk a.name b.name).length := by
    rw [← changed_swap, List.length_map]
  have columns : ((b.matched a).map fun (c, other) => (c.changes other).length).sum =
      ((a.matched b).map fun (c, other) => (c.changes other).length).sum := by
    refine Pairing.sum_of_perm_swap matched fun pair _ => ?_
    exact (Column.perm_changes pair.1 pair.2).length_eq.trans (List.length_map _)
  rw [length_changes, length_changes, renamed, columns, added, removed]
  omega

end Table

/-! ### Databases -/

namespace Database

/-- The ids of the tables are distinct, and so are those of the columns of each table. -/
structure HasDistinctIds (db : Database) : Prop where
  tables : (db.tables.map (·.id)).Nodup
  columns : ∀ t ∈ db.tables, t.HasDistinctIds

/-- The tables of a database with their partners in a new version of it. -/
def matched (old new : Database) : List (Table × Table) :=
  Pairing.pairs old.tables (old.tablePartners new) new.tables

/-- The differences of two databases in one direction and in the other say the same. -/
structure Mirrored (a b : Database) : Prop where
  partners : Pairing.Inverse (a.tablePartners b) (b.tablePartners a)
  matched : (b.matched a).Perm ((a.matched b).map Prod.swap)
  added : (a.changes b).filterMap (·.addedTable?) = (b.changes a).filterMap (·.removedTable?)
  removed : (a.changes b).filterMap (·.removedTable?) = (b.changes a).filterMap (·.addedTable?)
  changed : (a.changes b).filter (·.isWithinTable) =
    (a.matched b).flatMap fun (t, other) => t.changes other
  changedBack : (b.changes a).filter (·.isWithinTable) =
    (b.matched a).flatMap fun (other, t) => other.changes t
  tables : ∀ pair ∈ a.matched b, pair.1.Mirrored pair.2
  length : (a.changes b).length = (b.changes a).length

/-! What the differences of two databases say of each kind. -/

theorem changes_eq (a b : Database) :
    a.changes b =
      (Pairing.added (a.tablePartners b) b.tables).map (fun t => .tableAdded t.name) ++
        (Pairing.removed a.tables (a.tablePartners b)).map (fun t => .tableRemoved t.name) ++
        (a.matched b).flatMap fun (t, other) => t.changes other :=
  rfl

theorem isWithinTable_matched {a b : Database} {change : SchemaChange}
    (member : change ∈ (a.matched b).flatMap fun (t, other) => t.changes other) :
    change.isWithinTable = true := by
  obtain ⟨pair, -, inPair⟩ := List.mem_flatMap.mp member
  exact Table.isWithinTable_changes inPair

/-- What is said of whole tables is not said within tables. -/
theorem filterMap_matched {a b : Database} {f : SchemaChange → Option String}
    (outside : ∀ change : SchemaChange, change.isWithinTable = true → f change = none) :
    ((a.matched b).flatMap fun (t, other) => t.changes other).filterMap f = [] :=
  List.filterMap_eq_nil_iff.mpr fun change member => outside change (isWithinTable_matched member)

theorem addedTable?_changes (a b : Database) :
    (a.changes b).filterMap (·.addedTable?) =
      (Pairing.added (a.tablePartners b) b.tables).map (·.name) := by
  have outside : ∀ change : SchemaChange, change.isWithinTable = true →
      change.addedTable? = none := by
    intro change within
    simp only [SchemaChange.isWithinTable, Bool.and_eq_true, Option.isNone_iff_eq_none] at within
    exact within.1
  rw [changes_eq, List.filterMap_append, List.filterMap_append, filterMap_matched outside]
  simp [SchemaChange.addedTable?, List.filterMap_map]

theorem removedTable?_changes (a b : Database) :
    (a.changes b).filterMap (·.removedTable?) =
      (Pairing.removed a.tables (a.tablePartners b)).map (·.name) := by
  have outside : ∀ change : SchemaChange, change.isWithinTable = true →
      change.removedTable? = none := by
    intro change within
    simp only [SchemaChange.isWithinTable, Bool.and_eq_true, Option.isNone_iff_eq_none] at within
    exact within.2
  rw [changes_eq, List.filterMap_append, List.filterMap_append, filterMap_matched outside]
  simp [SchemaChange.removedTable?, List.filterMap_map]

theorem filter_isWithinTable_changes (a b : Database) :
    (a.changes b).filter (·.isWithinTable) =
      (a.matched b).flatMap fun (t, other) => t.changes other := by
  have all := List.filter_eq_self.mpr fun change => isWithinTable_matched (a := a) (b := b)
  rw [changes_eq, List.filter_append, List.filter_append, all]
  simp [SchemaChange.isWithinTable, SchemaChange.addedTable?, SchemaChange.removedTable?,
    List.filter_map, Function.comp_def]

theorem length_changes (a b : Database) :
    (a.changes b).length =
      (Pairing.added (a.tablePartners b) b.tables).length +
        (Pairing.removed a.tables (a.tablePartners b)).length +
        ((a.matched b).map fun (t, other) => (t.changes other).length).sum := by
  simp only [changes_eq, List.length_append, List.length_map, List.length_flatMap]

/-! ### Databases in both directions -/

variable {a b : Database}

/-- **The differences of two databases mirror those back** when the ids of tables and columns are
distinct. -/
theorem mirrored (distinctA : a.HasDistinctIds) (distinctB : b.HasDistinctIds) : a.Mirrored b := by
  have partners : Pairing.Inverse (a.tablePartners b) (b.tablePartners a) :=
    Pairing.inverse_partners distinctA.tables distinctB.tables
  have lengthA : (a.tablePartners b).length = a.tables.length := Pairing.length_partners ..
  have lengthB : (b.tablePartners a).length = b.tables.length := Pairing.length_partners ..
  have added := Pairing.added_eq_removed partners lengthB
  have removed := Pairing.added_eq_removed partners.symm lengthA
  have matched : (b.matched a).Perm ((a.matched b).map Prod.swap) :=
    Pairing.perm_pairs partners lengthA lengthB
  have tables : ∀ pair ∈ a.matched b, pair.1.Mirrored pair.2 := fun pair member =>
    have ⟨inA, inB⟩ := Pairing.mem_of_mem_pairs member
    Table.mirrored (distinctA.columns _ inA) (distinctB.columns _ inB)
  refine
    { partners, matched, tables
      added := by rw [addedTable?_changes, removedTable?_changes, added]
      removed := by rw [addedTable?_changes, removedTable?_changes, removed]
      changed := filter_isWithinTable_changes a b
      changedBack := filter_isWithinTable_changes b a
      length := ?_ }
  have within : ((b.matched a).map fun (t, other) => (t.changes other).length).sum =
      ((a.matched b).map fun (t, other) => (t.changes other).length).sum :=
    Pairing.sum_of_perm_swap matched fun pair member => (tables pair member).length.symm
  rw [length_changes, length_changes, within, added, removed]
  omega

end Database

/-- **Differences in both directions say the same**: of tables whose columns have distinct ids, and of
databases whose tables have distinct ids too. -/
theorem changes_mirrored :
    (∀ a b : Table, a.HasDistinctIds → b.HasDistinctIds → a.Mirrored b) ∧
      ∀ a b : Database, a.HasDistinctIds → b.HasDistinctIds → a.Mirrored b :=
  ⟨fun _ _ => Table.mirrored, fun _ _ => Database.mirrored⟩

/-! ### Contacts -/

namespace Contacts

/-- Two columns have the name `email`, up to case. -/
def contacts : Table :=
  { id := "t", name := "contacts", columns := [
      { id := "c1", name := "id", dataType := .integer, constraints := [.primaryKey] },
      { id := "c2", name := "EMAIL", dataType := .text, defaultText := some " - " },
      { id := "c3", name := "email", dataType := .varchar, length := some 80 },
      { id := "c4", name := "phone", dataType := .text }] }

/-- The key is renamed, the columns stand in another order, and one of them has a new id. -/
def people : Table :=
  { id := "p", name := "people", columns := [
      { id := "x1", name := "Email", dataType := .varchar, nullable := false,
        constraints := [.unique] },
      { id := "c1", name := "key", dataType := .bigInt, constraints := [.primaryKey] },
      { id := "x2", name := "fax", dataType := .text }] }

def before : Database := { id := "d", name := "office", tables := [contacts] }

def after : Database :=
  { id := "d", name := "office", tables := [people, { contacts with columns := [] }] }

end Contacts

open Contacts in
theorem changes_mirrored_contacts :
    contacts.columnPartners people = [some 1, some 0, none, none] ∧
      people.columnPartners contacts = [some 1, some 0, none] ∧
      (contacts.changes people).length = 11 ∧ contacts.Mirrored people ∧
      before.tablePartners after = [some 1] ∧ before.Mirrored after := by
  have distinctContacts : contacts.HasDistinctIds := by decide
  have distinctPeople : people.HasDistinctIds := by decide
  have distinctBefore : before.HasDistinctIds := ⟨by decide, by decide⟩
  have distinctAfter : after.HasDistinctIds := ⟨by decide, by decide⟩
  exact ⟨by decide, by decide, by decide,
    changes_mirrored.1 contacts people distinctContacts distinctPeople, by decide,
    changes_mirrored.2 before after distinctBefore distinctAfter⟩

end SchemaCompiler
