/-
**Schemas and queries are read back.**

What is written of a database or of a query is read back to it, whichever arrangement the members
of its objects have. The values of rows are taken as they come, so the arrangement must leave them
as they are:

* `readsBack_constraint`, `readsBack_extensions` — a check keeps its expression, and an object of
  overrides keeps apart the dialects without overrides and those with none of their own.
* `foldl_set_of_perm` — the dialects may be set in any order.
* `readsBack_column`, `readsBack_table`, `readsBack_database`, `readsBack_query` — the records, each
  made of those before it.
-/

import SchemaCompiler.Codec.Query
import SchemaCompiler.Codec.Schema
import SchemaCompiler.Proofs.Codec.Records

namespace SchemaCompiler

open Encode (written)

theorem Dialect.mem_all (d : Dialect) : d ∈ all := by
  cases d <;> decide

/-! ### Overrides -/

namespace PerDialect

variable {α : Type}

theorem get_foldl_set_of_not_mem {entries : List (Dialect × α)} {d : Dialect}
    (unlisted : d ∉ entries.map (·.1)) (values : PerDialect (Option α)) :
    (entries.foldl (fun values entry => values.set (some entry.2) entry.1) values).get d =
      values.get d := by
  induction entries generalizing values with
  | nil => rfl
  | cons head rest ih =>
    obtain ⟨other, notInRest⟩ := not_or.mp (mt List.mem_cons.mpr unlisted)
    rw [List.foldl_cons, ih notInRest, get_set, if_neg other]

/-- The value that was set for a dialect, when each dialect is set at most once. -/
theorem get_foldl_set_of_mem {entries : List (Dialect × α)} {d : Dialect}
    (distinct : (entries.map (·.1)).Nodup) {value : α} (listed : (d, value) ∈ entries)
    (values : PerDialect (Option α)) :
    (entries.foldl (fun values entry => values.set (some entry.2) entry.1) values).get d =
      some value := by
  induction entries generalizing values with
  | nil => cases listed
  | cons head rest ih =>
    obtain ⟨headFresh, restDistinct⟩ := List.nodup_cons.mp distinct
    rw [List.foldl_cons]
    rcases List.mem_cons.mp listed with isHead | inRest
    · obtain ⟨rfl, rfl⟩ := Prod.mk.inj isHead
      rw [get_foldl_set_of_not_mem headFresh, get_set, if_pos rfl]
    · exact ih restDistinct inRest _

/-- The values of the dialects that have one. -/
def entries (values : PerDialect (Option α)) : List (Dialect × α) :=
  written (Dialect.all.map fun d => (d, values.get d))

theorem keys_entries_sublist (values : PerDialect (Option α)) :
    (values.entries.map (·.1)).Sublist Dialect.all :=
  Encode.keys_written_sublist _

theorem mem_entries {values : PerDialect (Option α)} {d : Dialect} {value : α} :
    (d, value) ∈ values.entries ↔ values.get d = some value := by
  rw [entries, Encode.mem_written, List.mem_map]
  constructor
  · rintro ⟨other, _, same⟩
    obtain ⟨rfl, given⟩ := Prod.mk.inj same
    exact given
  · intro given
    exact ⟨d, d.mem_all, by rw [given]⟩

/-- **Setting the values** of the dialects in any order gives back all of them. -/
theorem foldl_set_of_perm {values : PerDialect (Option α)} {others : List (Dialect × α)}
    (perm : others.Perm values.entries) :
    others.foldl (fun values entry => values.set (some entry.2) entry.1) ⟨none, none, none⟩ =
      values := by
  have distinct : (others.map (·.1)).Nodup :=
    (perm.map (·.1)).nodup_iff.mpr (values.keys_entries_sublist.nodup (by decide))
  refine ext fun d => ?_
  cases given : values.get d with
  | none =>
    have unlisted : d ∉ others.map (·.1) := by
      intro listed
      obtain ⟨⟨_, value⟩, isEntry, rfl⟩ := List.mem_map.mp listed
      cases given.symm.trans (mem_entries.mp (perm.mem_iff.mp isEntry))
    rw [get_foldl_set_of_not_mem unlisted]
    cases d <;> rfl
  | some value =>
    exact get_foldl_set_of_mem distinct (perm.mem_iff.mpr (mem_entries.mpr given)) _

end PerDialect

namespace Column

theorem encodeExtensions_eq_map (extensions : PerDialect (Option (Dictionary String))) :
    encodeExtensions extensions =
      extensions.entries.map fun bag => (bag.1.name, Encode.dictionary Json.string bag.2) := by
  obtain ⟨_ | _, _ | _, _ | _⟩ := extensions <;> rfl

/-- Overrides are left out only when no dialect has any. -/
theorem eq_none_of_encodeExtensions {extensions : PerDialect (Option (Dictionary String))}
    (isEmpty : (encodeExtensions extensions).isEmpty = true) : extensions = ⟨none, none, none⟩ := by
  refine PerDialect.ext fun d => ?_
  have nothing := List.flatMap_eq_nil_iff.mp (List.isEmpty_iff.mp isEmpty) d d.mem_all
  cases given : extensions.get d with
  | none => cases d <;> rfl
  | some bag =>
    rw [given] at nothing
    cases nothing

end Column

/-! ### Rows -/

/-- Whether arranging leaves the values of the rows as they are. -/
def Table.RowsStay (arrange : Json → Json) (t : Table) : Prop :=
  ∀ row ∈ t.rows, ∀ entry ∈ row.entries, arrange entry.2 = entry.2

/-- Whether arranging leaves the values of the rows of all tables as they are. -/
def Database.RowsStay (arrange : Json → Json) (db : Database) : Prop :=
  ∀ t ∈ db.tables, t.RowsStay arrange

namespace Json.Arrangement

variable {arrange : Json → Json} (arrangement : Arrangement arrange)
include arrangement

/-! ### Vocabularies -/

theorem readsBack_dataType (t : DataType) : ReadsBack arrange DataType.decode DataType.encode t :=
  arrangement.readsBack_oneOf (by decide) t.mem_all

theorem readsBack_cardinality (c : Cardinality) :
    ReadsBack arrange Cardinality.decode Cardinality.encode c :=
  arrangement.readsBack_oneOf (by decide) (by cases c <;> decide)

theorem readsBack_action (a : ReferentialAction) :
    ReadsBack arrange ReferentialAction.decode ReferentialAction.encode a :=
  arrangement.readsBack_oneOf (by decide) (by cases a <;> decide)

theorem readsBack_aggregate (a : Aggregate) :
    ReadsBack arrange Aggregate.decode Aggregate.encode a :=
  arrangement.readsBack_oneOf (by decide) (by cases a <;> decide)

theorem readsBack_joinKind (kind : JoinKind) :
    ReadsBack arrange JoinKind.decode JoinKind.encode kind :=
  arrangement.readsBack_oneOf (by decide) (by cases kind <;> decide)

theorem readsBack_operator (o : Operator) : ReadsBack arrange Operator.decode Operator.encode o :=
  arrangement.readsBack_oneOf (by decide) (by cases o <;> decide)

theorem readsBack_connective (c : Connective) :
    ReadsBack arrange Connective.decode Connective.encode c :=
  arrangement.readsBack_oneOf (by decide) (by cases c <;> decide)

theorem readsBack_direction (d : Direction) :
    ReadsBack arrange Direction.decode Direction.encode d :=
  arrangement.readsBack_oneOf (by decide) (by cases d <;> decide)

/-! ### Columns -/

/-- **A constraint** is read back, a check with its expression. -/
theorem readsBack_constraint (c : Constraint) :
    ReadsBack arrange Constraint.decode Constraint.encode c := by
  cases c with
  | check expression =>
    have takes := (Takes.required "expression" (arrangement.readsBack_text expression)).map
      Constraint.check
    have payload : ReadsBack arrange (Decode.record "Check" _)
        (fun _ => .object [("expression", .string expression)]) (Constraint.check expression) :=
      arrangement.readsBack_record takes (by decide) rfl
    have single : arrange (.object [("expression", .string expression)]) =
        .object [("expression", .string expression)] := by
      rw [arrangement.object_singleton, arrangement.string]
    rw [ReadsBack, single] at payload
    rw [ReadsBack, Constraint.encode, arrangement.object_singleton, single]
    exact payload
  | primaryKey => exact congrArg Constraint.decode (arrangement.string _)
  | unique => exact congrArg Constraint.decode (arrangement.string _)
  | notNull => exact congrArg Constraint.decode (arrangement.string _)
  | autoIncrement => exact congrArg Constraint.decode (arrangement.string _)
  | foreignKey => exact congrArg Constraint.decode (arrangement.string _)
  | default => exact congrArg Constraint.decode (arrangement.string _)

/-- **The overrides** of a column are read back, dialect by dialect. -/
theorem readsBack_extensions (extensions : PerDialect (Option (Dictionary String))) :
    ReadsBack arrange Column.decodeExtensions
      (fun extensions => .object (Column.encodeExtensions extensions)) extensions := by
  have namesDistinct : (extensions.entries.map fun bag => bag.1.name).Nodup := by
    have sublist := extensions.keys_entries_sublist.map Dialect.name
    rw [List.map_map] at sublist
    exact sublist.nodup (by decide)
  have keys : ∀ bag ∈ extensions.entries,
      Decode.named Dialect.all Dialect.name bag.1.name = .ok bag.1 :=
    fun bag _ => Decode.named_name (by decide) bag.1.mem_all
  obtain ⟨others, perm, read⟩ := arrangement.exists_pairs Dialect.name namesDistinct keys
    fun bag _ => arrangement.readsBack_dictionary fun text _ => arrangement.readsBack_text text.2
  rw [ReadsBack, Column.encodeExtensions_eq_map, Column.decodeExtensions, read]
  exact congrArg Except.ok (PerDialect.foldl_set_of_perm perm)

/-- **A column** is read back. -/
theorem readsBack_column (c : Column) : ReadsBack arrange Column.decode Column.encode c := by
  have takes := ((Takes.required "id" (arrangement.readsBack_text c.id)).map Column.mk)
    |>.seq (.required "name" (arrangement.readsBack_text c.name))
    |>.seq (.required "type" (arrangement.readsBack_dataType c.dataType))
    |>.seq (.nullable "length" (arrangement.readsBack_optionalWord32 c.length))
    |>.seq (.nullable "precision" (arrangement.readsBack_optionalWord32 c.precision))
    |>.seq (.nullable "scale" (arrangement.readsBack_optionalWord32 c.scale))
    |>.seq (.optional "nullable" true (arrangement.readsBack_bool c.nullable))
    |>.seq (.nullable "default" (arrangement.readsBack_optionalText c.defaultText))
    |>.seq (.optional "constraints" [] (arrangement.readsBack_list c.constraints
      fun constraint _ => arrangement.readsBack_constraint constraint))
    |>.seq (.nullable "comment" (arrangement.readsBack_optionalText c.comment))
    |>.seq (.skippable "extensions" Column.eq_none_of_encodeExtensions
      (arrangement.readsBack_extensions c.extensions))
  refine arrangement.readsBack_record takes (by decide) ?_
  simp [Column.encode]

/-! ### Tables -/

/-- **An index** is read back. -/
theorem readsBack_index (index : Index) : ReadsBack arrange Index.decode Index.encode index := by
  have takes := ((Takes.required "id" (arrangement.readsBack_text index.id)).map Index.mk)
    |>.seq (.required "name" (arrangement.readsBack_text index.name))
    |>.seq (.required "columnIds" (arrangement.readsBack_texts index.columnIds))
    |>.seq (.optional "unique" false (arrangement.readsBack_bool index.unique))
  exact arrangement.readsBack_record takes (by decide) rfl

/-- **A relationship** is read back. -/
theorem readsBack_relationship (r : Relationship) :
    ReadsBack arrange Relationship.decode Relationship.encode r := by
  have takes := ((Takes.required "id" (arrangement.readsBack_text r.id)).map Relationship.mk)
    |>.seq (.optional "name" "" (arrangement.readsBack_text r.name))
    |>.seq (.required "sourceTableId" (arrangement.readsBack_text r.sourceTableId))
    |>.seq (.required "sourceColumnId" (arrangement.readsBack_text r.sourceColumnId))
    |>.seq (.required "targetTableId" (arrangement.readsBack_text r.targetTableId))
    |>.seq (.required "targetColumnId" (arrangement.readsBack_text r.targetColumnId))
    |>.seq (.optional "cardinality" .oneToMany (arrangement.readsBack_cardinality r.cardinality))
    |>.seq (.optional "onDelete" .noAction (arrangement.readsBack_action r.onDelete))
    |>.seq (.optional "onUpdate" .noAction (arrangement.readsBack_action r.onUpdate))
  exact arrangement.readsBack_record takes (by decide) rfl

/-- **A row** is read back when its values stay. -/
theorem readsBack_row {row : Row} (stays : ∀ entry ∈ row.entries, arrange entry.2 = entry.2) :
    ReadsBack arrange decodeRow encodeRow row :=
  arrangement.readsBack_dictionary fun entry listed => congrArg Except.ok (stays entry listed)

/-- **A table** is read back when its rows stay. -/
theorem readsBack_table {t : Table} (stays : t.RowsStay arrange) :
    ReadsBack arrange Table.decode Table.encode t := by
  have noRows : t.rows.isEmpty = true → t.rows = [] := List.isEmpty_iff.mp
  have rows : ReadsBack arrange (Decode.list decodeRow) (Encode.list encodeRow) t.rows :=
    arrangement.readsBack_list t.rows fun row listed =>
      arrangement.readsBack_row (stays row listed)
  have takes := ((Takes.required "id" (arrangement.readsBack_text t.id)).map Table.mk)
    |>.seq (.required "name" (arrangement.readsBack_text t.name))
    |>.seq (.optional "columns" [] (arrangement.readsBack_list t.columns
      fun column _ => arrangement.readsBack_column column))
    |>.seq (.optional "relationships" [] (arrangement.readsBack_list t.relationships
      fun relationship _ => arrangement.readsBack_relationship relationship))
    |>.seq (.optional "indexes" [] (arrangement.readsBack_list t.indexes
      fun index _ => arrangement.readsBack_index index))
    |>.seq (.nullable "comment" (arrangement.readsBack_optionalText t.comment))
    |>.seq (.nullable "compositeKeyName" (arrangement.readsBack_optionalText t.compositeKeyName))
    |>.seq (.skippable "rows" noRows rows)
  refine arrangement.readsBack_record takes (by decide) ?_
  simp [Table.encode]

/-- **A database** is read back when its rows stay. -/
theorem readsBack_database {db : Database} (stays : db.RowsStay arrange) :
    ReadsBack arrange Database.decode Database.encode db := by
  have tables : ReadsBack arrange (Decode.list Table.decode) (Encode.list Table.encode) db.tables :=
    arrangement.readsBack_list db.tables fun t listed =>
      arrangement.readsBack_table (stays t listed)
  have takes := ((Takes.required "id" (arrangement.readsBack_text db.id)).map Database.mk)
    |>.seq (.required "name" (arrangement.readsBack_text db.name))
    |>.seq (.optional "tables" [] tables)
  exact arrangement.readsBack_record takes (by decide) rfl

/-! ### Queries -/

theorem readsBack_columnRef (ref : ColumnRef) :
    ReadsBack arrange ColumnRef.decode ColumnRef.encode ref := by
  have takes := ((Takes.required "table" (arrangement.readsBack_text ref.table)).map ColumnRef.mk)
    |>.seq (.required "column" (arrangement.readsBack_text ref.column))
  exact arrangement.readsBack_record takes (by decide) rfl

theorem readsBack_selectedColumn (c : SelectedColumn) :
    ReadsBack arrange SelectedColumn.decode SelectedColumn.encode c := by
  have takes := ((Takes.required "table" (arrangement.readsBack_text c.table)).map
      SelectedColumn.mk)
    |>.seq (.required "column" (arrangement.readsBack_text c.column))
    |>.seq (.optional "aggregate" .none (arrangement.readsBack_aggregate c.aggregate))
    |>.seq (.optional "alias" none (arrangement.readsBack_optionalText c.givenAlias))
  exact arrangement.readsBack_record takes (by decide) rfl

theorem readsBack_join (j : Join) : ReadsBack arrange Join.decode Join.encode j := by
  have takes := ((Takes.required "leftTable" (arrangement.readsBack_text j.leftTable)).map Join.mk)
    |>.seq (.required "leftColumn" (arrangement.readsBack_text j.leftColumn))
    |>.seq (.required "rightTable" (arrangement.readsBack_text j.rightTable))
    |>.seq (.required "rightColumn" (arrangement.readsBack_text j.rightColumn))
    |>.seq (.optional "kind" .inner (arrangement.readsBack_joinKind j.kind))
  exact arrangement.readsBack_record takes (by decide) rfl

theorem readsBack_condition (c : Condition) :
    ReadsBack arrange Condition.decode Condition.encode c := by
  have takes := ((Takes.required "table" (arrangement.readsBack_text c.table)).map Condition.mk)
    |>.seq (.required "column" (arrangement.readsBack_text c.column))
    |>.seq (.required "operator" (arrangement.readsBack_operator c.operator))
    |>.seq (.optional "value" "" (arrangement.readsBack_text c.value))
    |>.seq (.optional "connective" .and (arrangement.readsBack_connective c.connective))
    |>.seq (.optional "aggregate" .none (arrangement.readsBack_aggregate c.aggregate))
  exact arrangement.readsBack_record takes (by decide) rfl

theorem readsBack_orderBy (o : OrderBy) : ReadsBack arrange OrderBy.decode OrderBy.encode o := by
  have takes := ((Takes.required "table" (arrangement.readsBack_text o.table)).map OrderBy.mk)
    |>.seq (.required "column" (arrangement.readsBack_text o.column))
    |>.seq (.optional "direction" .asc (arrangement.readsBack_direction o.direction))
  exact arrangement.readsBack_record takes (by decide) rfl

/-- **A query** is read back. -/
theorem readsBack_query (q : Query) : ReadsBack arrange Query.decode Query.encode q := by
  have takes := ((Takes.optional "tables" [] (arrangement.readsBack_texts q.tables)).map Query.mk)
    |>.seq (.optional "columns" [] (arrangement.readsBack_list q.columns
      fun column _ => arrangement.readsBack_selectedColumn column))
    |>.seq (.optional "joins" [] (arrangement.readsBack_list q.joins
      fun join _ => arrangement.readsBack_join join))
    |>.seq (.optional "filters" [] (arrangement.readsBack_list q.filters
      fun condition _ => arrangement.readsBack_condition condition))
    |>.seq (.optional "groupBy" [] (arrangement.readsBack_list q.groupBy
      fun ref _ => arrangement.readsBack_columnRef ref))
    |>.seq (.optional "having" [] (arrangement.readsBack_list q.having
      fun condition _ => arrangement.readsBack_condition condition))
    |>.seq (.optional "orderBy" [] (arrangement.readsBack_list q.orderBy
      fun entry _ => arrangement.readsBack_orderBy entry))
    |>.seq (.optional "limit" none (arrangement.readsBack_optionalWord64 q.limit))
    |>.seq (.optional "offset" none (arrangement.readsBack_optionalWord64 q.offset))
  exact arrangement.readsBack_record takes (by decide) rfl

end Json.Arrangement

end SchemaCompiler
