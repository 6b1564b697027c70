/-
**Ids are opaque.**

Ids are compared for equality and with nothing but each other, so a schema with new ids, different ones
for different ones, is written like the old one. Each part of a statement is the same for the renamed
table as for the table, the order of the tables is the same, and rows have the same values in the same
columns, although their keys stand in another order.

* `Relationship.resolve_renamed`, `Table.foreignKeys_renamed` — foreign keys, dangling ones included.
* `Table.createText_renamed`, `Table.insertText_renamed` — the texts of a table.
* `Dependency.dependencies_renamed`, `Database.writtenTables_renamed` — the order of the tables.
* `Database.ids_are_opaque` — what is generated for a schema.
-/

import SchemaCompiler.Proofs.Generation.Outcomes
import SchemaCompiler.Proofs.Renaming.Ids

namespace SchemaCompiler

variable (ids : Renaming) {d : Dialect} {options : GenerateOptions}

/-! ### Errors with new ids -/

/-- An error with new ids. -/
def SchemaError.renamed (ids : Renaming) : SchemaError → SchemaError
  | .unknownColumn table column => .unknownColumn table (ids.column column)
  | error => error

/-- The reason why a relationship does not resolve, with new ids. -/
def Unresolved.renamed (ids : Renaming) : Unresolved → Unresolved
  | .sourceColumn column table => .sourceColumn (ids.column column) table
  | .targetTable table => .targetTable (ids.table table)
  | .targetColumn column table => .targetColumn (ids.column column) table

/-- The ends of a relationship with new ids. -/
def ResolvedRelationship.renamed (ids : Renaming) (ends : ResolvedRelationship) :
    ResolvedRelationship :=
  ⟨ends.sourceColumn.renamed ids, ends.targetTable.renamed ids, ends.targetColumn.renamed ids⟩

/-! ### Relationships -/

namespace Relationship

variable (r : Relationship) (t : Table) (tables : List Table)

theorem target?_renamed :
    (r.renamed ids).target? (t.renamed ids) (tables.map (·.renamed ids)) =
      (r.target? t tables).map (·.renamed ids) := by
  have self : (if ids.table r.targetTableId = ids.table t.id then some (t.renamed ids) else none) =
      (if r.targetTableId = t.id then some t else none).map (·.renamed ids) := by
    rw [apply_ite (Option.map _)]
    exact if_congr ids.table_injective.eq_iff rfl rfl
  show (tableById? _ (ids.table r.targetTableId)).or
    (if ids.table r.targetTableId = ids.table t.id then _ else _) = _
  rw [tableById?_renamed, self, target?, Option.map_or]

/-- **A relationship resolves to the renamed ends**, or fails to for the same reason. -/
theorem resolve_renamed :
    (r.renamed ids).resolve (t.renamed ids) (tables.map (·.renamed ids)) =
      ((r.resolve t tables).map (·.renamed ids)).mapError (·.renamed ids) := by
  unfold resolve
  rw [sourceColumnId_renamed, targetColumnId_renamed, t.columnById?_renamed, target?_renamed]
  cases t.columnById? r.sourceColumnId with
  | none => rfl
  | some sourceColumn =>
    cases r.target? t tables with
    | none => rfl
    | some targetTable =>
      dsimp only [Option.map_some]
      rw [targetTable.columnById?_renamed]
      cases targetTable.columnById? r.targetColumnId <;> rfl

end Relationship

/-! ### Statements that make a table -/

/-- **The definition of a renamed column** is its definition. -/
theorem Column.definition_renamed (c : Column) (inlineKey comments : Bool) :
    (c.renamed ids).definition d options inlineKey comments =
      c.definition d options inlineKey comments := by
  have sameType : d.typeName options (c.renamed ids) = d.typeName options c := by cases d <;> rfl
  have sameText : (c.renamed ids).default? = c.default? := rfl
  have sameDataType : (c.renamed ids).dataType = c.dataType := rfl
  have sameDefault : (c.renamed ids).defaultClause d = c.defaultClause d := by
    rw [defaultClause, defaultClause, Dialect.defaultLiteral?, Dialect.defaultLiteral?, sameText,
      sameDataType]
  have sameClauses : (c.renamed ids).clauses d inlineKey comments =
      c.clauses d inlineKey comments := by
    cases d <;> rw [clauses, clauses, sameDefault] <;> rfl
  rw [definition, definition, sameType, sameClauses]
  rfl

namespace Table

variable (t : Table) (tables : List Table)

/-- **The foreign keys of a renamed table** are its foreign keys. -/
theorem foreignKeys_renamed :
    (t.renamed ids).foreignKeys (tables.map (·.renamed ids)) = t.foreignKeys tables := by
  unfold foreignKeys
  rw [ownRelationships_renamed, List.filterMap_map]
  congr 1
  funext r
  rw [Function.comp_apply, Relationship.resolve_renamed]
  cases r.resolve t tables <;> rfl

theorem hasCompositeKey_renamed : (t.renamed ids).hasCompositeKey = t.hasCompositeKey := by
  rw [hasCompositeKey, hasCompositeKey, primaryKey_renamed, List.length_map]

theorem definitions_renamed :
    (t.renamed ids).definitions (tables.map (·.renamed ids)) d options =
      t.definitions tables d options := by
  have columns : (t.renamed ids).columnDefinitions d options = t.columnDefinitions d options := by
    unfold columnDefinitions
    rw [hasCompositeKey_renamed, columns_renamed, List.map_map]
    exact List.map_congr_left fun c _ => congrArg Definition.column (c.definition_renamed ids _ _)
  have keys : (t.renamed ids).keyDefinitions = t.keyDefinitions := by
    unfold keyDefinitions
    rw [hasCompositeKey_renamed, primaryKey_renamed, List.map_map]
    rfl
  rw [definitions, definitions, columns, keys, foreignKeys_renamed]

theorem commentStatements_renamed :
    (t.renamed ids).commentStatements d options = t.commentStatements d options := by
  have columns : (t.columns.map (·.renamed ids)).flatMap
        (fun c => c.comment.toList.map (Statement.commentOnColumn t.name c.name)) =
      t.columns.flatMap fun c => c.comment.toList.map (.commentOnColumn t.name c.name) :=
    List.flatMap_map ..
  unfold commentStatements
  rw [← columns]
  rfl

/-- An index names the same columns, or a column that does not exist under its new id. -/
theorem indexStatement_renamed (index : Index) :
    (t.renamed ids).indexStatement (index.renamed ids) =
      (t.indexStatement index).mapError (·.renamed ids) := by
  unfold indexStatement
  rw [Traversal.return_mapError, Traversal.mapM_mapError]
  show (do
    let columns ← (index.columnIds.map ids.column).mapM _
    return Statement.createIndex index.unique index.name t.name columns) = _
  rw [List.mapM_map]
  refine congrArg (fun name? : String → Except SchemaError String => do
    let columns ← index.columnIds.mapM name?
    return Statement.createIndex index.unique index.name t.name columns) (funext fun id => ?_)
  rw [Function.comp_apply, columnById?_renamed]
  cases t.columnById? id <;> rfl

/-- **The text that makes a renamed table** is its text. -/
theorem createText_renamed :
    (t.renamed ids).createText (tables.map (·.renamed ids)) d options =
      (t.createText tables d options).mapError (·.renamed ids) := by
  have indexes : (t.renamed ids).indexes.mapM (t.renamed ids).indexStatement =
      (t.indexes.mapM t.indexStatement).mapError (·.renamed ids) := by
    rw [indexes_renamed, List.mapM_map, Traversal.mapM_mapError]
    exact congrArg (t.indexes.mapM ·) (funext (t.indexStatement_renamed ids))
  unfold createText statements
  rw [Traversal.return_mapError, Traversal.return_mapError, indexes, definitions_renamed,
    commentStatements_renamed]
  rfl

/-! ### Rows -/

theorem filledColumns_renamed :
    (t.renamed ids).filledColumns = t.filledColumns.map (·.renamed ids) := by
  have sameTest : (fun c : Column => (t.renamed ids).rows.any (·.contains c.id)) ∘
      (Column.renamed ids) = fun c => t.rows.any (·.contains c.id) := by
    funext c
    rw [Function.comp_apply, rows_renamed, List.any_map]
    exact congrArg (t.rows.any ·) (funext fun row =>
      Dictionary.contains_mapKeys ids.column_injective c.id row)
  rw [filledColumns, filledColumns, columns_renamed, List.filter_map, sameTest]

theorem cell_renamed (c : Column) (row : Row) :
    cell d (c.renamed ids) (row.mapKeys ids.column) = cell d c row := by
  unfold cell
  rw [Column.id_renamed, Dictionary.find?_mapKeys ids.column_injective]
  rfl

theorem cells_renamed : (t.renamed ids).cells d = t.cells d := by
  unfold cells
  rw [filledColumns_renamed, rows_renamed, List.map_map]
  refine List.map_congr_left fun row _ => ?_
  rw [Function.comp_apply, List.map_map]
  exact List.map_congr_left fun c _ => cell_renamed ids c row

/-- **The rows of a renamed table** are written like its rows. -/
theorem insertText_renamed : (t.renamed ids).insertText d options = t.insertText d options := by
  have names : ((t.renamed ids).filledColumns.map fun c => d.quoteIdentifier c.name) =
      t.filledColumns.map fun c => d.quoteIdentifier c.name := by
    rw [filledColumns_renamed, List.map_map]
    rfl
  have empty : (t.renamed ids).filledColumns.isEmpty = t.filledColumns.isEmpty := by
    rw [filledColumns_renamed, List.isEmpty_map]
  unfold insertText
  dsimp only
  rw [empty, names, cells_renamed]
  rfl

end Table

/-! ### The order of the tables -/

/-- **Dependencies are those of the renamed tables.** -/
theorem Dependency.dependencies_renamed (tables : List Table) :
    dependencies (tables.map (·.renamed ids)) = dependencies tables := by
  funext place
  have targets (t : Table) :
      (t.renamed ids).ownRelationships.filterMap (fun r =>
          (tables.map (·.renamed ids)).findIdx? (·.id == r.targetTableId)) =
        t.ownRelationships.filterMap fun r => tables.findIdx? (·.id == r.targetTableId) := by
    rw [Table.ownRelationships_renamed, List.filterMap_map]
    exact congrArg (List.filterMap · t.ownRelationships)
      (funext fun r => findIdx?_renamed ids tables r.targetTableId)
  unfold dependencies
  rw [List.getElem?_map, List.length_map]
  cases tables[place]? with
  | none => rfl
  | some t =>
    show (List.range tables.length).filter (fun other => other != place &&
      ((t.renamed ids).ownRelationships.filterMap _).contains other) = _
    rw [targets]

namespace Database

variable (db : Database)

theorem writtenTables_renamed :
    (db.renamed ids).writtenTables = db.writtenTables.map (·.renamed ids) := by
  have sameOrder : Dependency.dependencyOrder? (db.tables.map (·.renamed ids)) =
      Dependency.dependencyOrder? db.tables := by
    rw [Dependency.dependencyOrder?, Dependency.dependencyOrder?, Dependency.dependencies_renamed,
      List.length_map]
  rw [writtenTables, writtenTables, tables_renamed, sameOrder]
  cases Dependency.dependencyOrder? db.tables with
  | none => rfl
  | some order => simp only [List.getElem?_map, List.map_filterMap]

/-- **The texts that make a renamed schema** are its texts. -/
theorem createTexts_renamed :
    (db.renamed ids).createTexts d options =
      (db.createTexts d options).mapError (·.renamed ids) := by
  have texts : (db.renamed ids).writtenTables.mapM
        (Table.createText · (db.tables.map (·.renamed ids)) d options) =
      (db.writtenTables.mapM (Table.createText · db.tables d options)).mapError
        (SchemaError.renamed ids) := by
    rw [writtenTables_renamed, List.mapM_map, Traversal.mapM_mapError]
    exact congrArg (db.writtenTables.mapM ·)
      (funext fun t => Table.createText_renamed ids t db.tables)
  have refers : (db.tables.map (·.renamed ids)).any (·.refersToTables) =
      db.tables.any (·.refersToTables) := by
    rw [List.any_map]
    refine congrArg (db.tables.any ·) (funext fun t => ?_)
    rw [Function.comp_apply, Table.refersToTables, Table.refersToTables,
      Table.ownRelationships_renamed, List.isEmpty_map]
  unfold createTexts
  rw [Traversal.return_mapError, ← texts, ← refers]
  rfl

end Database

/-! ### What is generated -/

/-- Outcomes have the same text when their checks pass alike and their texts differ in errors at
most. -/
theorem GeneratedSql.sql_ofChecked_congr {report other : Report}
    (alike : report.errors = [] ↔ other.errors = []) (word : SchemaError → SchemaError)
    (text : Except SchemaError String) (warnings others : List String) :
    (ofChecked d report (text.mapError word) warnings).sql =
      (ofChecked d other text others).sql := by
  by_cases valid : other.errors = []
  · cases text with
    | error cause =>
      rw [Except.mapError, ofChecked_of_error (alike.mpr valid), ofChecked_of_error valid]
    | ok sql => rw [Except.mapError, ofChecked_of_valid (alike.mpr valid), ofChecked_of_valid valid]
  · rw [ofChecked_of_invalid (mt alike.mp valid), ofChecked_of_invalid valid]

/-- **The rows of a renamed table** are generated like its rows. -/
theorem Table.sql_generateInsert_renamed (t : Table) :
    ((t.renamed ids).generateInsert d options).sql = (t.generateInsert d options).sql := by
  have alike : ((t.renamed ids).validate d).errors = [] ↔ (t.validate d).errors = [] := by
    rw [validate_errors_eq_nil_iff, validate_errors_eq_nil_iff, errors_renamed, List.map_eq_nil_iff]
  unfold generateInsert
  rw [insertText_renamed]
  exact GeneratedSql.sql_ofChecked_congr alike (·.renamed ids) (.ok _) _ _

/-- **Ids are opaque.** With new ids, different ones for different ones, a schema has errors exactly
when it had some before, and the text that makes it is the same, as are those that insert the rows of
its tables. -/
theorem Database.ids_are_opaque (ids : Renaming) (db : Database) (d : Dialect)
    (options : GenerateOptions) :
    (((db.renamed ids).generate d options).errors = [] ↔ (db.generate d options).errors = []) ∧
      ((db.renamed ids).generate d options).sql = (db.generate d options).sql ∧
      (db.renamed ids).tables.map (fun t => (t.generateInsert d options).sql) =
        db.tables.map fun t => (t.generateInsert d options).sql := by
  have alike : ((db.renamed ids).validate d).errors = [] ↔ (db.validate d).errors = [] := by
    rw [validate_errors_eq_nil_iff, validate_errors_eq_nil_iff, errors_renamed, List.map_eq_nil_iff]
  refine ⟨?_, ?_, ?_⟩
  · rw [errors_generate, errors_generate, alike]
  · have text : ((db.renamed ids).createTexts d options).map "\n\n".intercalate =
        ((db.createTexts d options).map "\n\n".intercalate).mapError (·.renamed ids) := by
      rw [createTexts_renamed]
      cases db.createTexts d options <;> rfl
    unfold generate
    rw [text]
    exact GeneratedSql.sql_ofChecked_congr alike _ _ _ _
  · rw [tables_renamed, List.map_map]
    exact List.map_congr_left fun t _ => t.sql_generateInsert_renamed ids

/-! ### Ids spelled backwards -/

/-- Every id spelled backwards. -/
def Renaming.backwards : Renaming where
  table id := .ofList id.toList.reverse
  column id := .ofList id.toList.reverse
  table_injective _ _ same :=
    String.toList_injective (List.reverse_injective (String.ofList_injective same))
  column_injective _ _ same :=
    String.toList_injective (List.reverse_injective (String.ofList_injective same))

/-- Loans refer to a member, and to a shelf that is not there. -/
def Database.library : Database :=
  { id := "d", name := "library",
    tables :=
      [ { id := "t1", name := "loans",
          columns :=
            [ { id := "a2", name := "id", dataType := .integer, nullable := false,
                constraints := [.primaryKey] },
              { id := "b1", name := "member", dataType := .integer } ],
          relationships :=
            [ { id := "r", name := "fk_member", sourceTableId := "t1", sourceColumnId := "b1",
                targetTableId := "t2", targetColumnId := "a2" },
              { id := "s", name := "fk_shelf", sourceTableId := "t1", sourceColumnId := "a2",
                targetTableId := "t3", targetColumnId := "a2" } ],
          rows := [.ofList [("a2", .number (.integer 7)), ("b1", .number (.integer 1))]] },
        { id := "t2", name := "members",
          columns :=
            [ { id := "a2", name := "id", dataType := .integer, nullable := false,
                constraints := [.primaryKey] } ] } ] }

/-- The keys of the row change places, but not the values in the statement. -/
theorem Database.ids_are_opaque_library :
    (library.tables.flatMap fun t => t.rows.map (·.keys)) = [["a2", "b1"]] ∧
      ((library.renamed .backwards).tables.flatMap fun t => t.rows.map (·.keys)) = [["1b", "2a"]] ∧
      ((library.renamed .backwards).generate .sqlite {}).sql = (library.generate .sqlite {}).sql ∧
      (library.renamed .backwards).tables.map (fun t => (t.generateInsert .sqlite {}).sql) =
        ["INSERT INTO \"loans\" (\"id\", \"member\") VALUES (7, 1);", ""] := by
  obtain ⟨-, sameText, sameRows⟩ := ids_are_opaque .backwards library .sqlite {}
  exact ⟨by decide, by decide, sameText, sameRows.trans (by decide)⟩

end SchemaCompiler
