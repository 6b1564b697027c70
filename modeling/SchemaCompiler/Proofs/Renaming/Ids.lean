/-
**New ids for a schema.**

A renaming gives tables and columns new ids, different ones for different ones. It reaches every place
where an id stands: tables, columns, both ends of relationships whether they exist or not, the columns
of indexes, and the keys of rows, which come to stand in another order. What is looked up by an id is
found again under the new one, so the checks find the same faults.

* `Dictionary.find?_mapKeys` — a row has its values under the new keys.
* `Table.columnById?_renamed`, `tableById?_renamed` — columns and tables are found.
* `Database.errors_renamed` — the errors of a renamed schema are its errors, renamed.
-/

import Mathlib.Logic.Function.Basic
import SchemaCompiler.Proofs.Codec.Arrangement
import SchemaCompiler.Proofs.Validation.Errors

namespace SchemaCompiler

/-- New ids for tables and for columns, different ones for different ones. -/
structure Renaming where
  table : String → String
  column : String → String
  table_injective : Function.Injective table
  column_injective : Function.Injective column

/-! ### Dictionaries -/

namespace Dictionary

variable {α : Type}

/-- The dictionary with new keys. -/
def mapKeys (f : String → String) (d : Dictionary α) : Dictionary α :=
  .ofList (d.entries.map fun entry => (f entry.1, entry.2))

variable {f : String → String}

/-- **A value is found under its new key**, although the keys stand in another order. -/
theorem find?_mapKeys (injective : Function.Injective f) (key : String) (d : Dictionary α) :
    (d.mapKeys f).find? (f key) = d.find? key := by
  have keysOf : (d.entries.map fun entry => (f entry.1, entry.2)).map (·.1) = d.keys.map f := by
    rw [keys, List.map_map, List.map_map]
    rfl
  have distinct := d.nodup_keys.map injective
  rw [← keysOf] at distinct
  refine Option.ext fun value => ?_
  show Entries.find? _ (Entries.inOrder _) = some value ↔ Entries.find? key d.entries = some value
  rw [Entries.find?_eq_some_iff (Entries.keys_nodup (Entries.increasing_inOrder _)),
    (Entries.inOrder_perm distinct).mem_iff, Entries.find?_eq_some_iff d.nodup_keys, List.mem_map]
  constructor
  · rintro ⟨entry, member, same⟩
    obtain ⟨sameKey, rfl⟩ := Prod.mk.inj same
    obtain rfl := injective sameKey
    exact member
  · exact fun member => ⟨_, member, rfl⟩

theorem contains_mapKeys (injective : Function.Injective f) (key : String) (d : Dictionary α) :
    (d.mapKeys f).contains (f key) = d.contains key := by
  rw [contains, contains, find?_mapKeys injective]

end Dictionary

/-! ### Renaming -/

/-- The column with a new id. -/
def Column.renamed (ids : Renaming) (c : Column) : Column :=
  { c with id := ids.column c.id }

/-- The relationship with new ids at both ends. -/
def Relationship.renamed (ids : Renaming) (r : Relationship) : Relationship :=
  { r with
    sourceTableId := ids.table r.sourceTableId,
    sourceColumnId := ids.column r.sourceColumnId,
    targetTableId := ids.table r.targetTableId,
    targetColumnId := ids.column r.targetColumnId }

/-- The index with new ids of its columns. -/
def Index.renamed (ids : Renaming) (index : Index) : Index :=
  { index with columnIds := index.columnIds.map ids.column }

/-- The table with new ids. -/
def Table.renamed (ids : Renaming) (t : Table) : Table :=
  { t with
    id := ids.table t.id,
    columns := t.columns.map (·.renamed ids),
    relationships := t.relationships.map (·.renamed ids),
    indexes := t.indexes.map (·.renamed ids),
    rows := t.rows.map (·.mapKeys ids.column) }

/-- The database with new ids. -/
def Database.renamed (ids : Renaming) (db : Database) : Database :=
  { db with tables := db.tables.map (·.renamed ids) }

variable (ids : Renaming) {d : Dialect}

/-! ### Looking up -/

theorem Column.id_renamed (c : Column) : (c.renamed ids).id = ids.column c.id := rfl

theorem Relationship.sourceColumnId_renamed (r : Relationship) :
    (r.renamed ids).sourceColumnId = ids.column r.sourceColumnId :=
  rfl

theorem Relationship.targetColumnId_renamed (r : Relationship) :
    (r.renamed ids).targetColumnId = ids.column r.targetColumnId :=
  rfl

namespace Table

variable (t : Table)

theorem columns_renamed : (t.renamed ids).columns = t.columns.map (·.renamed ids) := rfl

theorem indexes_renamed : (t.renamed ids).indexes = t.indexes.map (·.renamed ids) := rfl

theorem rows_renamed : (t.renamed ids).rows = t.rows.map (·.mapKeys ids.column) := rfl

/-- **A column is found** under its new id. -/
theorem columnById?_renamed (id : String) :
    (t.renamed ids).columnById? (ids.column id) = (t.columnById? id).map (·.renamed ids) := by
  have sameTest : (fun c : Column => c.id == ids.column id) ∘ (Column.renamed ids) =
      fun c => c.id == id :=
    funext fun _ => ids.column_injective.beq_eq
  rw [columnById?, columnById?, columns_renamed, List.find?_map, sameTest]

theorem ownRelationships_renamed :
    (t.renamed ids).ownRelationships = t.ownRelationships.map (·.renamed ids) := by
  have sameTest : (fun r : Relationship => r.sourceTableId == ids.table t.id) ∘
      (Relationship.renamed ids) = fun r => r.sourceTableId == t.id :=
    funext fun _ => ids.table_injective.beq_eq
  show (t.relationships.map _).filter _ = (t.relationships.filter _).map _
  rw [List.filter_map]
  exact congrArg (fun test => (t.relationships.filter test).map _) sameTest

theorem primaryKey_renamed : (t.renamed ids).primaryKey = t.primaryKey.map (·.renamed ids) :=
  List.filter_map

theorem hasSource_renamed (r : Relationship) :
    (t.renamed ids).hasSource (r.renamed ids) = t.hasSource r := by
  rw [hasSource, hasSource, Relationship.sourceColumnId_renamed, columnById?_renamed,
    Option.isSome_map]

end Table

/-- A table has a new id exactly when it had the old one. -/
theorem Table.beq_id_comp_renamed (id : String) :
    (fun t : Table => t.id == ids.table id) ∘ (Table.renamed ids) = fun t => t.id == id :=
  funext fun _ => ids.table_injective.beq_eq

/-- **A table is found** under its new id. -/
theorem tableById?_renamed (tables : List Table) (id : String) :
    tableById? (tables.map (·.renamed ids)) (ids.table id) =
      (tableById? tables id).map (·.renamed ids) := by
  rw [tableById?, tableById?, List.find?_map, Table.beq_id_comp_renamed]

/-- A table stands in the same place under its new id. -/
theorem findIdx?_renamed (tables : List Table) (id : String) :
    (tables.map (·.renamed ids)).findIdx? (·.id == ids.table id) = tables.findIdx? (·.id == id) := by
  rw [List.findIdx?_map, Table.beq_id_comp_renamed]

/-! ### Errors -/

/-- An error of a table with new ids. -/
def TableError.renamed (ids : Renaming) : TableError → TableError
  | .column c error => .column (c.renamed ids) error
  | .unknownIndexColumn index id => .unknownIndexColumn index (ids.column id)
  | .unknownSourceColumn relationship id => .unknownSourceColumn relationship (ids.column id)
  | error => error

/-- An error of a database with new ids. -/
def DatabaseError.renamed (ids : Renaming) : DatabaseError → DatabaseError
  | .repeatedTable name => .repeatedTable name
  | .table t error => .table (t.renamed ids) (error.renamed ids)

namespace Table

variable (t : Table)

theorem nameErrors_renamed :
    (t.renamed ids).nameErrors = t.nameErrors.map (·.renamed ids) := by
  show t.nameErrors = t.nameErrors.map _
  unfold nameErrors when
  dsimp only
  split
  · rfl
  · split
    · rfl
    · split <;> rfl

theorem repeatedColumns_renamed :
    (t.renamed ids).repeatedColumns = t.repeatedColumns.map (·.renamed ids) := by
  have sameKey : (fun c : Column => nameKey c.name) ∘ (Column.renamed ids) =
      fun c => nameKey c.name := rfl
  rw [repeatedColumns, repeatedColumns, columns_renamed, repeated_map, sameKey, List.map_map,
    List.map_map]
  rfl

theorem columnErrors_renamed :
    (t.renamed ids).columnErrors d = (t.columnErrors d).map (·.renamed ids) := by
  unfold columnErrors
  rw [primaryKey_renamed, List.length_map, columns_renamed, List.map_flatMap, List.flatMap_map]
  refine congrArg (List.flatMap · t.columns) (funext fun c => ?_)
  rw [List.map_map]
  rfl

theorem indexErrors_renamed (index : Index) :
    (t.renamed ids).indexErrors (index.renamed ids) =
      (t.indexErrors index).map (·.renamed ids) := by
  have sameTest : (fun id => ((t.renamed ids).columnById? id).isNone) ∘ ids.column =
      fun id => (t.columnById? id).isNone := by
    funext id
    rw [Function.comp_apply, columnById?_renamed, Option.isNone_map]
  have empty : (index.renamed ids).columnIds.isEmpty = index.columnIds.isEmpty := List.isEmpty_map
  unfold indexErrors
  rw [empty, List.map_append, List.map_map]
  congr 1
  · cases index.columnIds.isEmpty <;> rfl
  · show ((index.columnIds.map _).filter _).map _ = _
    rw [List.filter_map, sameTest, List.map_map]
    rfl

theorem relationshipErrors_renamed :
    (t.renamed ids).relationshipErrors = t.relationshipErrors.map (·.renamed ids) := by
  have sameTest : (fun r => !(t.renamed ids).hasSource r) ∘ (Relationship.renamed ids) =
      fun r => !t.hasSource r := by
    funext r
    rw [Function.comp_apply, hasSource_renamed]
  unfold relationshipErrors
  rw [ownRelationships_renamed, List.filter_map, sameTest, List.map_map, List.map_map]
  rfl

/-- **The errors of a renamed table** are its errors, renamed. -/
theorem errors_renamed : (t.renamed ids).errors d = (t.errors d).map (·.renamed ids) := by
  have empty : (t.renamed ids).columns.isEmpty = t.columns.isEmpty := List.isEmpty_map
  have indexes : (t.renamed ids).indexes.flatMap (t.renamed ids).indexErrors =
      (t.indexes.flatMap t.indexErrors).map (·.renamed ids) := by
    rw [indexes_renamed, List.flatMap_map, List.map_flatMap]
    exact congrArg (List.flatMap · t.indexes) (funext (t.indexErrors_renamed ids))
  unfold errors
  rw [empty, nameErrors_renamed, repeatedColumns_renamed, columnErrors_renamed, indexes,
    relationshipErrors_renamed]
  split
  · rfl
  · simp only [List.map_append]

end Table

theorem Database.tables_renamed (db : Database) :
    (db.renamed ids).tables = db.tables.map (·.renamed ids) :=
  rfl

/-- **The errors of a renamed schema** are its errors, renamed. -/
theorem Database.errors_renamed (db : Database) :
    (db.renamed ids).errors d = (db.errors d).map (·.renamed ids) := by
  have sameKey : (fun t : Table => nameKey t.name) ∘ (Table.renamed ids) =
      fun t => nameKey t.name := rfl
  unfold errors repeatedTables
  rw [tables_renamed, List.map_append, List.map_flatMap, List.map_map]
  congr 1
  · rw [repeated_map, sameKey, List.map_map]
    rfl
  · rw [List.flatMap_map]
    refine congrArg (List.flatMap · db.tables) (funext fun t => ?_)
    rw [Table.errors_renamed, List.map_map, List.map_map]
    rfl

end SchemaCompiler
