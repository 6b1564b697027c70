/-
**Dialects do not see one another.**

What is written for a dialect depends on the overrides and the options of that dialect, and on comments
only where they are asked for. A schema and options are cut down to what a dialect may read. Checks,
texts and warnings are the same for what is left, so schemas and options that agree in it have the same
outcomes.

* `Database.seenBy`, `GenerateOptions.seenBy` — what a dialect may read.
* `Table.validate_seenBy`, `Database.validate_seenBy` — checks read neither overrides nor comments.
* `Table.generate_seenBy`, `Table.generateInsert_seenBy`, `Database.generate_seenBy` — outcomes.
* `Database.dialects_are_isolated` — the contract.
-/

import SchemaCompiler.Proofs.Generation.Outcomes
import SchemaCompiler.Proofs.Generation.WrittenAlike

namespace SchemaCompiler

/-! ### What a dialect may read -/

/-- The column without the overrides for other dialects, and without its comment unless comments are
written. -/
def Column.seenBy (d : Dialect) (comments : Bool) (c : Column) : Column :=
  { c with
    comment := if comments then c.comment else none,
    extensions := .of fun other => if other = d then c.extensions.get d else none }

/-- The table with what a dialect may read of its columns, and without its comment unless comments are
written. -/
def Table.seenBy (d : Dialect) (comments : Bool) (t : Table) : Table :=
  { t with
    columns := t.columns.map (·.seenBy d comments),
    comment := if comments then t.comment else none }

/-- The database with what a dialect may read of its tables. -/
def Database.seenBy (d : Dialect) (comments : Bool) (db : Database) : Database :=
  { db with tables := db.tables.map (·.seenBy d comments) }

/-- The options with the defaults for all other dialects. -/
def GenerateOptions.seenBy (d : Dialect) (options : GenerateOptions) : GenerateOptions :=
  { options with
    mysql := if d = .mysql then options.mysql else {},
    postgres := if d = .postgres then options.postgres else {},
    sqlite := if d = .sqlite then options.sqlite else {} }

/-! ### Lists of views -/

section Views

variable {α β γ : Type} {view other : α → β}

/-- Items yield what their views yield. -/
theorem flatMap_of_views {result : β → List γ} {f : α → List γ}
    (ofView : ∀ x, result (view x) = f x) (xs : List α) :
    (xs.map view).flatMap result = xs.flatMap f := by
  rw [List.flatMap_map]
  exact List.flatMap_congr fun x _ => ofView x

/-- Items with the same views have the same results where results depend on the view. -/
theorem map_eq_of_views {f g : α → γ} {xs ys : List α} (result : β → γ)
    (same : xs.map view = ys.map other) (ofView : ∀ x, result (view x) = f x)
    (ofOther : ∀ y, result (other y) = g y) : xs.map f = ys.map g :=
  calc xs.map f
      = (xs.map view).map result := by
        rw [List.map_map]
        exact List.map_congr_left fun x _ => (ofView x).symm
    _ = (ys.map other).map result := by rw [same]
    _ = ys.map g := by
        rw [List.map_map]
        exact List.map_congr_left fun y _ => ofOther y

end Views

/-! ### Options of other dialects -/

section Options

variable (d : Dialect) (options : GenerateOptions)

theorem Dialect.typeName_options (c : Column) :
    d.typeName (options.seenBy d) c = d.typeName options c := by
  cases d <;> rfl

theorem Dialect.tableName_options (name : String) :
    d.tableName (options.seenBy d) name = d.tableName options name := by
  cases d <;> rfl

theorem ForeignKey.render_options (key : ForeignKey) :
    key.render d (options.seenBy d) = key.render d options := by
  unfold render
  rw [Dialect.tableName_options]

theorem Definition.render_options (definition : Definition) :
    definition.render d (options.seenBy d) = definition.render d options := by
  cases definition with
  | column definition => rfl
  | primaryKey name columns => simp only [render]
  | foreignKey key => exact key.render_options d options

theorem Statement.render_options (statement : Statement) :
    statement.render d (options.seenBy d) = statement.render d options := by
  have sameDefinition : Definition.render d (options.seenBy d) = Definition.render d options :=
    funext (Definition.render_options d options)
  have sameGuard : (options.seenBy d).ifNotExists = options.ifNotExists := rfl
  have sameLayout : (options.seenBy d).pretty = options.pretty := rfl
  unfold render
  cases statement <;>
    simp only [Dialect.tableName_options, sameDefinition, sameGuard, sameLayout]

namespace Table

variable (t : Table)

theorem statements_options (tables : List Table) :
    t.statements tables d (options.seenBy d) = t.statements tables d options := by
  have columns : t.columnDefinitions d (options.seenBy d) = t.columnDefinitions d options :=
    List.map_congr_left fun c _ => by
      rw [Column.definition, Column.definition, Dialect.typeName_options]
      rfl
  have afterwards : t.optionTexts d (options.seenBy d) = t.optionTexts d options := by
    cases d <;> rfl
  have comments : t.commentStatements d (options.seenBy d) = t.commentStatements d options := rfl
  rw [statements, statements, definitions, definitions, columns, afterwards, comments]

/-- **The text that makes a table** shows nothing of the options of other dialects. -/
theorem createText_options (tables : List Table) :
    t.createText tables d (options.seenBy d) = t.createText tables d options := by
  have sameText : Statement.render d (options.seenBy d) = Statement.render d options :=
    funext (Statement.render_options d options)
  rw [createText, createText, statements_options, sameText]

/-- **The text that inserts rows** shows nothing of the options of other dialects. -/
theorem insertText_options : t.insertText d (options.seenBy d) = t.insertText d options := by
  have sameLayout : (options.seenBy d).pretty = options.pretty := rfl
  unfold insertText
  rw [Dialect.tableName_options, sameLayout]

end Table

end Options

/-! ### Columns and tables that are cut down -/

section Tables

variable (d : Dialect) (comments : Bool) (c : Column) (t : Table)

theorem Column.extension?_seenBy (key : String) :
    (c.seenBy d comments).extension? d key = c.extension? d key := by
  rw [extension?, extension?, seenBy, PerDialect.get_of, if_pos rfl]

/-- **The definition of a column** shows nothing of the overrides for other dialects. -/
theorem Column.definition_seenBy (options : GenerateOptions) (inlineKey : Bool) :
    (c.seenBy d comments).definition d options inlineKey comments =
      c.definition d options inlineKey comments := by
  have sameType : d.typeName options (c.seenBy d comments) = d.typeName options c := by
    unfold Dialect.typeName
    rw [extension?_seenBy]
    cases d <;> rfl
  have sameCollation : (c.seenBy d comments).collateClause d = c.collateClause d := by
    rw [collateClause, collateClause, extension?_seenBy]
  have sameText : (c.seenBy d comments).default? = c.default? := rfl
  have sameDataType : (c.seenBy d comments).dataType = c.dataType := rfl
  have sameDefault : (c.seenBy d comments).defaultClause d = c.defaultClause d := by
    rw [defaultClause, defaultClause, Dialect.defaultLiteral?, Dialect.defaultLiteral?, sameText,
      sameDataType]
  have sameComment : (if comments then
      (c.seenBy d comments).comment.toList.map ColumnClause.comment else []) =
        if comments then c.comment.toList.map .comment else [] := by
    cases comments <;> rfl
  have sameClauses : (c.seenBy d comments).clauses d inlineKey comments =
      c.clauses d inlineKey comments := by
    unfold clauses
    rw [sameCollation, sameDefault, sameComment, extension?_seenBy, extension?_seenBy]
    rfl
  rw [definition, definition, sameType, sameClauses]
  rfl

theorem Column.writtenAlike_seenBy (options : GenerateOptions) :
    c.WrittenAlike d options (c.seenBy d options.includeComments) where
  id := rfl
  name := rfl
  isPrimaryKey := rfl
  comment wanted := (if_pos wanted).symm
  definition inlineKey := (c.definition_seenBy d options.includeComments options inlineKey).symm

/-- **A table is written like what a dialect may read of it.** -/
theorem Table.writtenAlike_seenBy (options : GenerateOptions) :
    t.WrittenAlike d options (t.seenBy d options.includeComments) where
  id := rfl
  name := rfl
  columns := Traversal.forall₂_map fun c _ => c.writtenAlike_seenBy d options
  relationships := rfl
  indexes := rfl
  keyName := rfl
  comment wanted := (if_pos wanted).symm

theorem writtenAlike_map_seenBy (options : GenerateOptions) (tables : List Table) :
    List.Forall₂ (Table.WrittenAlike d options) tables
      (tables.map (·.seenBy d options.includeComments)) :=
  Traversal.forall₂_map fun t _ => t.writtenAlike_seenBy d options

end Tables

/-! ### Checks -/

section Checks

variable (d target : Dialect) (comments : Bool)

/-- The checks of a column read neither its overrides nor its comment. -/
theorem Column.errors_seenBy (c : Column) (keyCount : Nat) :
    (c.seenBy d comments).errors target keyCount = c.errors target keyCount :=
  rfl

theorem Column.warnings_seenBy (c : Column) :
    (c.seenBy d comments).warnings target = c.warnings target :=
  rfl

theorem ColumnError.message_seenBy (table : String) (c : Column) (error : ColumnError) :
    error.message target table (c.seenBy d comments) = error.message target table c := by
  unfold message
  rfl

theorem ColumnWarning.message_seenBy (table : String) (c : Column) (warning : ColumnWarning) :
    warning.message target table (c.seenBy d comments) = warning.message target table c := by
  unfold message
  rfl

namespace Table

variable (t : Table)

theorem columnById?_seenBy (id : String) :
    (t.seenBy d comments).columnById? id = (t.columnById? id).map (·.seenBy d comments) :=
  List.find?_map ..

theorem isNone_columnById?_seenBy (id : String) :
    ((t.seenBy d comments).columnById? id).isNone = (t.columnById? id).isNone := by
  rw [columnById?_seenBy, Option.isNone_map]

theorem hasSource_seenBy : (t.seenBy d comments).hasSource = t.hasSource := by
  funext r
  rw [hasSource, hasSource, columnById?_seenBy, Option.isSome_map]

theorem length_primaryKey_seenBy :
    (t.seenBy d comments).primaryKey.length = t.primaryKey.length := by
  have sameKey : (t.seenBy d comments).primaryKey = t.primaryKey.map (·.seenBy d comments) :=
    List.filter_map ..
  rw [sameKey, List.length_map]

theorem repeatedColumns_seenBy : (t.seenBy d comments).repeatedColumns = t.repeatedColumns := by
  show (repeated _ (t.columns.map _)).map _ = _
  rw [repeated_map, List.map_map]
  rfl

theorem indexErrors_seenBy : (t.seenBy d comments).indexErrors = t.indexErrors := by
  funext index
  unfold indexErrors
  simp only [isNone_columnById?_seenBy]

theorem relationshipErrors_seenBy :
    (t.seenBy d comments).relationshipErrors = t.relationshipErrors := by
  unfold relationshipErrors
  rw [hasSource_seenBy]
  rfl

theorem keyWarnings_seenBy : (t.seenBy d comments).keyWarnings = t.keyWarnings := by
  unfold keyWarnings
  rw [length_primaryKey_seenBy]
  rfl

end Table

theorem TableError.message_seenBy (t : Table) :
    TableError.message target (t.seenBy d comments) = TableError.message target t := by
  funext error
  cases error <;> rfl

theorem TableWarning.message_seenBy (t : Table) :
    TableWarning.message target (t.seenBy d comments) = TableWarning.message target t := by
  funext warning
  cases warning <;> rfl

namespace Table

variable (t : Table)

theorem errorTexts_seenBy : (t.seenBy d comments).errorTexts target = t.errorTexts target := by
  have empty : (t.seenBy d comments).columns.isEmpty = t.columns.isEmpty := List.isEmpty_map
  have ofColumns : ((t.seenBy d comments).columnErrors target).map (·.message target t) =
      (t.columnErrors target).map (·.message target t) := by
    unfold columnErrors
    rw [length_primaryKey_seenBy, List.map_flatMap, List.map_flatMap]
    refine flatMap_of_views (fun c => ?_) t.columns
    rw [Column.errors_seenBy, List.map_map, List.map_map]
    exact List.map_congr_left fun error _ => error.message_seenBy d target comments t.name c
  -- Of the errors only those of columns hold a column, and their messages show its name and type.
  unfold errorTexts errors
  rw [TableError.message_seenBy, empty, repeatedColumns_seenBy, indexErrors_seenBy,
    relationshipErrors_seenBy]
  split
  · rfl
  · simp only [List.map_append, ofColumns]
    rfl

theorem warningTexts_seenBy :
    (t.seenBy d comments).warningTexts target = t.warningTexts target := by
  have empty : (t.seenBy d comments).columns.isEmpty = t.columns.isEmpty := List.isEmpty_map
  have ofColumns : ((t.seenBy d comments).columns.flatMap fun c =>
        (c.warnings target).map (TableWarning.column c)).map (·.message target t) =
      (t.columns.flatMap fun c =>
        (c.warnings target).map (TableWarning.column c)).map (·.message target t) := by
    rw [List.map_flatMap, List.map_flatMap]
    refine flatMap_of_views (fun c => ?_) t.columns
    rw [Column.warnings_seenBy, List.map_map, List.map_map]
    exact List.map_congr_left fun warning _ => warning.message_seenBy d target comments t.name c
  unfold warningTexts warnings
  rw [TableWarning.message_seenBy, empty, keyWarnings_seenBy]
  split
  · rfl
  · simp only [List.map_append, ofColumns]
    rfl

/-- **The check of a table** reads neither overrides nor comments. -/
theorem validate_seenBy : (t.seenBy d comments).validate target = t.validate target := by
  rw [validate, validate, errorTexts_seenBy, warningTexts_seenBy]

end Table

end Checks

/-! ### Rows -/

section Rows

variable (d target : Dialect) (comments : Bool) (options : GenerateOptions) (t : Table)

namespace Table

theorem filledColumns_seenBy :
    (t.seenBy d comments).filledColumns = t.filledColumns.map (·.seenBy d comments) :=
  List.filter_map ..

theorem cells_seenBy : (t.seenBy d comments).cells target = t.cells target := by
  unfold cells
  rw [filledColumns_seenBy]
  refine List.map_congr_left fun row _ => ?_
  rw [List.map_map]
  rfl

theorem insertText_seenBy :
    (t.seenBy d comments).insertText target options = t.insertText target options := by
  have names : ((t.seenBy d comments).filledColumns.map fun c => target.quoteIdentifier c.name) =
      t.filledColumns.map fun c => target.quoteIdentifier c.name := by
    rw [filledColumns_seenBy, List.map_map]
    rfl
  have empty : (t.seenBy d comments).filledColumns.isEmpty = t.filledColumns.isEmpty := by
    rw [filledColumns_seenBy, List.isEmpty_map]
  unfold insertText
  dsimp only
  rw [empty, names, cells_seenBy]
  rfl

theorem insertWarnings_seenBy : (t.seenBy d comments).insertWarnings = t.insertWarnings := by
  have strays : (t.seenBy d comments).strayValues = t.strayValues := by
    unfold strayValues
    simp only [isNone_columnById?_seenBy]
    rfl
  unfold insertWarnings
  rw [strays, filledColumns_seenBy, List.isEmpty_map]
  rfl

end Table

end Rows

/-! ### Databases -/

namespace Database

variable (d target : Dialect) (options : GenerateOptions) (db : Database)

theorem unresolved_seenBy (t : Table) :
    (db.seenBy d options.includeComments).unresolved (t.seenBy d options.includeComments) =
      db.unresolved t := by
  unfold unresolved
  rw [Table.hasSource_seenBy]
  refine congrArg (List.filterMap · _) (funext fun r => ?_)
  rcases (t.writtenAlike_seenBy d options).resolve (writtenAlike_map_seenBy d options db.tables) r
    with ⟨_, fails, otherFails⟩ | ⟨_, _, found, otherFound, -⟩
  · rw [fails, seenBy, otherFails]
  · rw [found, seenBy, otherFound]

/-- **The check of a database** reads neither overrides nor comments. -/
theorem validate_seenBy :
    (db.seenBy d options.includeComments).validate target = db.validate target := by
  have sameErrors : ((db.seenBy d options.includeComments).errors target).map (·.message target) =
      (db.errors target).map (·.message target) := by
    have ofTable (t : Table) :
        ((t.errors target).map (DatabaseError.table t)).map (·.message target) =
          t.errorTexts target := by
      rw [List.map_map]
      rfl
    have repeatedTables : (db.seenBy d options.includeComments).repeatedTables =
        db.repeatedTables := by
      show (repeated _ (db.tables.map _)).map _ = _
      rw [repeated_map, List.map_map]
      rfl
    unfold errors
    rw [List.map_append, List.map_append, repeatedTables, List.map_flatMap, List.map_flatMap]
    congr 1
    refine flatMap_of_views (fun t => ?_) db.tables
    rw [ofTable, ofTable, Table.errorTexts_seenBy]
  have sameWarnings :
      ((db.seenBy d options.includeComments).warnings target).map (·.message target) =
        (db.warnings target).map (·.message target) := by
    have ofTable (t : Table) :
        ((t.warnings target).map (DatabaseWarning.table t)).map (·.message target) =
          t.warningTexts target := by
      rw [List.map_map]
      rfl
    have sameCycle : Dependency.findCycle? (db.seenBy d options.includeComments).tables =
        Dependency.findCycle? db.tables :=
      (Dependency.findCycle?_of_alike (writtenAlike_map_seenBy d options db.tables)).symm
    unfold warnings
    rw [List.map_append, List.map_append, sameCycle, List.map_flatMap, List.map_flatMap]
    congr 1
    refine flatMap_of_views (fun t => ?_) db.tables
    rw [List.map_append, List.map_append, ofTable, ofTable, Table.warningTexts_seenBy,
      unresolved_seenBy]
  rw [validate, validate, sameErrors, sameWarnings]

end Database

/-! ### Outcomes -/

section Outcomes

variable (d : Dialect) (options : GenerateOptions)

namespace Table

variable (t : Table)

/-- **What is generated for a table** depends on what its dialect may read. -/
theorem generate_seenBy (tables : List Table) :
    (t.seenBy d options.includeComments).generate
        (tables.map (·.seenBy d options.includeComments)) d (options.seenBy d) =
      t.generate tables d options := by
  have alike := t.writtenAlike_seenBy d options
  have allAlike := writtenAlike_map_seenBy d options tables
  have refers : (t.seenBy d options.includeComments).refersToTables = t.refersToTables := rfl
  unfold generate
  rw [createText_options, ← alike.createText allAlike, ← alike.skippedRelationships allAlike,
    validate_seenBy, refers]

/-- **What is generated for rows** depends on what their dialect may read. -/
theorem generateInsert_seenBy :
    (t.seenBy d options.includeComments).generateInsert d (options.seenBy d) =
      t.generateInsert d options := by
  unfold generateInsert
  rw [insertText_options, insertText_seenBy, insertWarnings_seenBy, validate_seenBy]

end Table

namespace Database

theorem createTexts_options (db : Database) :
    db.createTexts d (options.seenBy d) = db.createTexts d options := by
  have sameTexts : (fun t : Table => t.createText db.tables d (options.seenBy d)) =
      fun t => t.createText db.tables d options :=
    funext fun t => t.createText_options d options db.tables
  unfold createTexts
  rw [sameTexts]

/-- **What is generated for a database** depends on what its dialect may read. -/
theorem generate_seenBy (db : Database) :
    (db.seenBy d options.includeComments).generate d (options.seenBy d) =
      db.generate d options := by
  have allAlike : List.Forall₂ (Table.WrittenAlike d options) db.tables
      (db.seenBy d options.includeComments).tables :=
    writtenAlike_map_seenBy d options db.tables
  have sameSkipped : db.writtenTables.flatMap (·.skippedRelationships db.tables) =
      (db.seenBy d options.includeComments).writtenTables.flatMap
        (·.skippedRelationships (db.seenBy d options.includeComments).tables) := by
    rw [List.flatMap_def, List.flatMap_def]
    exact congrArg List.flatten (Related.map_eq (writtenTables_of_alike allAlike)
      fun _ _ alike => alike.skippedRelationships allAlike)
  unfold generate
  rw [createTexts_options, ← createTexts_of_alike allAlike, ← orderWarnings_of_alike allAlike,
    validate_seenBy, ← sameSkipped]

/-- **Dialects do not see one another.** Databases and options that agree in what a dialect may read
(they may differ in the overrides and options of other dialects, and in comments when none are written)
have the same outcome for the dialect, with the same text, warnings and errors; so have their tables,
and the rows of these. -/
theorem dialects_are_isolated {d : Dialect} {options others : GenerateOptions} {db other : Database}
    (sameOptions : options.seenBy d = others.seenBy d)
    (sameDatabase : db.seenBy d options.includeComments = other.seenBy d options.includeComments) :
    db.generate d options = other.generate d others ∧
      db.tables.map (·.generate db.tables d options) =
        other.tables.map (·.generate other.tables d others) ∧
      db.tables.map (·.generateInsert d options) =
        other.tables.map (·.generateInsert d others) := by
  have sameComments : options.includeComments = others.includeComments := by
    show (options.seenBy d).includeComments = (others.seenBy d).includeComments
    rw [sameOptions]
  have sameTables : db.tables.map (·.seenBy d options.includeComments) =
      other.tables.map (·.seenBy d others.includeComments) := by
    rw [← sameComments]
    exact congrArg Database.tables sameDatabase
  refine ⟨?_, ?_, ?_⟩
  · rw [← generate_seenBy d options db, ← generate_seenBy d others other, sameDatabase, sameOptions,
      sameComments]
  · refine map_eq_of_views
      (·.generate (db.tables.map (·.seenBy d options.includeComments)) d (options.seenBy d))
      sameTables (fun t => t.generate_seenBy d options db.tables) fun t => ?_
    rw [sameTables, sameOptions]
    exact t.generate_seenBy d others other.tables
  · refine map_eq_of_views (·.generateInsert d (options.seenBy d)) sameTables
      (fun t => t.generateInsert_seenBy d options) fun t => ?_
    rw [sameOptions]
    exact t.generateInsert_seenBy d others

/-! ### One station, two dialects -/

/-- The readings of a weather station, with overrides and a comment on their values. -/
def station (overrides : PerDialect (Option (Dictionary String))) (comment : Option String) :
    Database :=
  { id := "s", name := "station",
    tables :=
      [ { id := "r", name := "readings", comment,
          columns :=
            [ { id := "k", name := "id", dataType := .integer, nullable := false,
                constraints := [.primaryKey] },
              { id := "v", name := "value", dataType := .decimal, precision := some 6, comment,
                extensions := overrides } ],
          rows := [.ofList [("k", .number (.integer 1)), ("v", .string "20.5")]] } ] }

/-- MySQL takes the values as whole numbers without a sign, which PostgreSQL does not see. -/
theorem dialects_are_isolated_station :
    let money := some (.ofList [("type", "MONEY")])
    let db := station ⟨some (.ofList [("type", "INT"), ("unsigned", "true")]), money, none⟩ "raw"
    let other := station ⟨none, money, none⟩ none
    let options : GenerateOptions := { includeComments := false, mysql := { engine := "MyISAM" } }
    let others : GenerateOptions := { includeComments := false, sqlite := { strict := true } }
    options.seenBy .postgres = others.seenBy .postgres ∧
      db.seenBy .postgres false = other.seenBy .postgres false ∧
      db.generate .postgres options = other.generate .postgres others ∧
      (db.generate .postgres options).errors = [] ∧
      (db.tables.map fun t => (t.generate db.tables .mysql options).sql) ≠
        other.tables.map (fun t => (t.generate other.tables .mysql options).sql) ∧
      (db.tables.map fun t => (t.generate db.tables .mysql options).sql) ≠
        db.tables.map fun t => (t.generate db.tables .mysql others).sql := by
  intro money db other options others
  have sameOptions : options.seenBy .postgres = others.seenBy .postgres := rfl
  have sameDatabase : db.seenBy .postgres false = other.seenBy .postgres false := rfl
  have valid : (db.validate .postgres).errors = [] := by decide
  exact ⟨sameOptions, sameDatabase, (dialects_are_isolated sameOptions sameDatabase).1,
    (db.errors_generate .postgres options).trans valid, by decide, by decide⟩

end Database

end Outcomes

end SchemaCompiler
