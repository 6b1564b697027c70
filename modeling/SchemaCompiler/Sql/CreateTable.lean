/-
**CREATE TABLE, COMMENT ON and CREATE INDEX.**

The statements that make a table are first built as values: a table statement is a list of
definitions (the columns, a composite primary key, the foreign keys) with options after it, and
comments and indexes follow. `Statement.render` writes them for a dialect.

* `inParentheses_pretty`, `inParentheses_plain` — the text around and between the definitions.
-/

import SchemaCompiler.Schema.Resolution
import SchemaCompiler.SchemaError
import SchemaCompiler.Sql.ColumnDefinition

namespace SchemaCompiler

/-- A foreign key: the names of its ends and what happens to the source. -/
structure ForeignKey where
  name : String
  sourceColumn : String
  targetTable : String
  targetColumn : String
  onDelete : ReferentialAction
  onUpdate : ReferentialAction
  deriving DecidableEq

/-- A definition between the parentheses of CREATE TABLE. -/
inductive Definition where
  | column (definition : ColumnDefinition)
  | primaryKey (name : Option String) (columns : List String)
  | foreignKey (key : ForeignKey)
  deriving DecidableEq

/-- A statement that makes a table. -/
inductive Statement where
  | createTable (table : String) (definitions : List Definition) (options : List String)
  | commentOnTable (table comment : String)
  | commentOnColumn (table column comment : String)
  | createIndex (unique : Bool) (name table : String) (columns : List String)
  deriving DecidableEq

/-! ### Writing statements -/

/-- An action of a foreign key; the default of every dialect is left out. -/
def actionText (event : String) (action : ReferentialAction) : String :=
  if action = .noAction then "" else event ++ action.sql

/-- Quoted names in parentheses. -/
def nameList (d : Dialect) (names : List String) : String :=
  "(" ++ ", ".intercalate (names.map d.quoteIdentifier) ++ ")"

/-- The text of a foreign key. -/
def ForeignKey.render (d : Dialect) (options : GenerateOptions) (key : ForeignKey) : String :=
  "CONSTRAINT " ++ d.quoteIdentifier key.name ++ " FOREIGN KEY (" ++
    d.quoteIdentifier key.sourceColumn ++ ") REFERENCES " ++
    d.tableName options key.targetTable ++ " (" ++ d.quoteIdentifier key.targetColumn ++ ")" ++
    actionText " ON DELETE " key.onDelete ++ actionText " ON UPDATE " key.onUpdate

/-- The text of a definition. -/
def Definition.render (d : Dialect) (options : GenerateOptions) : Definition → String
  | .column definition => definition.render d
  | .primaryKey name columns =>
    let key := "PRIMARY KEY " ++ nameList d columns
    match name with
    | some name => "CONSTRAINT " ++ d.quoteIdentifier name ++ " " ++ key
    | none => key
  | .foreignKey key => key.render d options

/-- Parts in parentheses, each on a line of its own when that is asked for. -/
def inParentheses (pretty : Bool) (parts : List String) : String :=
  if pretty then " (\n  " ++ ",\n  ".intercalate parts ++ "\n)"
  else " (" ++ ", ".intercalate parts ++ ")"

/-- Pretty parts stand on lines of their own, two blanks from the margin. -/
theorem inParentheses_pretty (parts : List String) :
    inParentheses true parts = " (\n  " ++ ",\n  ".intercalate parts ++ "\n)" := rfl

/-- Other parts stand on the line of the statement. -/
theorem inParentheses_plain (parts : List String) :
    inParentheses false parts = " (" ++ ", ".intercalate parts ++ ")" := rfl

/-- Whether an index can be made only if it does not exist. -/
def Dialect.indexIfNotExists (d : Dialect) : Bool := d != .mysql

/-- The text of a statement. -/
def Statement.render (d : Dialect) (options : GenerateOptions) : Statement → String
  | .createTable table definitions tableOptions =>
    "CREATE TABLE " ++ (if options.ifNotExists then "IF NOT EXISTS " else "") ++
      d.tableName options table ++
      inParentheses options.pretty (definitions.map (·.render d options)) ++
      String.join (tableOptions.map (" " ++ ·)) ++ ";"
  | .commentOnTable table comment =>
    "COMMENT ON TABLE " ++ d.tableName options table ++ " IS " ++ d.stringLiteral comment ++ ";"
  | .commentOnColumn table column comment =>
    "COMMENT ON COLUMN " ++ d.tableName options table ++ "." ++ d.quoteIdentifier column ++
      " IS " ++ d.stringLiteral comment ++ ";"
  | .createIndex unique name table columns =>
    "CREATE " ++ (if unique then "UNIQUE " else "") ++ "INDEX " ++
      (if options.ifNotExists && d.indexIfNotExists then "IF NOT EXISTS " else "") ++
      d.quoteIdentifier name ++ " ON " ++ d.tableName options table ++ " " ++
      nameList d columns ++ ";"

/-! ### The statements of a table -/

namespace Dialect

/-- The statement that comes before all tables, given whether any of them has a relationship. -/
def preamble? : Dialect → Bool → Option String
  | .sqlite, true => some "PRAGMA foreign_keys = ON;"
  | _, _ => none

end Dialect

namespace Table

/-- The options after the parentheses of CREATE TABLE. -/
def optionTexts (t : Table) (d : Dialect) (options : GenerateOptions) : List String :=
  match d with
  | .mysql =>
    options.mysql.engine.toList.map ("ENGINE=" ++ ·) ++
      options.mysql.charset.toList.map ("DEFAULT CHARSET=" ++ ·) ++
      options.mysql.collation.toList.map ("COLLATE=" ++ ·) ++
      (if options.includeComments then
        t.comment.toList.map fun comment => "COMMENT=" ++ d.stringLiteral comment
      else [])
  | .postgres => []
  | .sqlite => if options.sqlite.strict then ["STRICT"] else []

/-- The comments that are statements of their own. -/
def commentStatements (t : Table) (d : Dialect) (options : GenerateOptions) : List Statement :=
  if d = .postgres ∧ options.includeComments then
    t.comment.toList.map (.commentOnTable t.name) ++
      t.columns.flatMap fun c => c.comment.toList.map (.commentOnColumn t.name c.name)
  else []

/-- Whether the primary key is a definition of its own, because it has several columns. -/
def hasCompositeKey (t : Table) : Bool :=
  1 < t.primaryKey.length

/-- The definitions of the columns. -/
def columnDefinitions (t : Table) (d : Dialect) (options : GenerateOptions) : List Definition :=
  t.columns.map fun c =>
    .column (c.definition d options (!t.hasCompositeKey) options.includeComments)

/-- The definition of a composite primary key. -/
def keyDefinitions (t : Table) : List Definition :=
  if t.hasCompositeKey then [.primaryKey t.keyName? (t.primaryKey.map (·.name))] else []

/-- The foreign key of a resolved relationship. A relationship without a name is named after its
table and source column. -/
def foreignKeyOf (t : Table) (r : Relationship) (ends : ResolvedRelationship) : ForeignKey :=
  { name :=
      if Text.allBlank r.name then "fk_" ++ t.name ++ "_" ++ ends.sourceColumn.name
      else Text.trim r.name,
    sourceColumn := ends.sourceColumn.name,
    targetTable := ends.targetTable.name,
    targetColumn := ends.targetColumn.name,
    onDelete := r.onDelete,
    onUpdate := r.onUpdate }

/-- The foreign keys of the own relationships that resolve, in order. -/
def foreignKeys (t : Table) (tables : List Table) : List ForeignKey :=
  t.ownRelationships.filterMap fun r =>
    match r.resolve t tables with
    | .ok ends => some (t.foreignKeyOf r ends)
    | .error _ => none

/-- The warnings for the own relationships that do not resolve, in order. -/
def skippedRelationships (t : Table) (tables : List Table) : List String :=
  t.ownRelationships.filterMap fun r =>
    match r.resolve t tables with
    | .ok _ => none
    | .error cause => some (r.skippedText cause)

/-- The definitions of a table: its columns, its composite key and its foreign keys. -/
def definitions (t : Table) (tables : List Table) (d : Dialect) (options : GenerateOptions) :
    List Definition :=
  t.columnDefinitions d options ++ t.keyDefinitions ++ (t.foreignKeys tables).map .foreignKey

/-- The statement of an index; an error when a column does not exist. -/
def indexStatement (t : Table) (index : Index) : Except SchemaError Statement := do
  let columns ← index.columnIds.mapM fun id =>
    match t.columnById? id with
    | some c => .ok c.name
    | none => .error (.unknownColumn t.name id)
  return .createIndex index.unique index.name t.name columns

/-- The statements that make a table: the table, its comments and its indexes. -/
def statements (t : Table) (tables : List Table) (d : Dialect) (options : GenerateOptions) :
    Except SchemaError (List Statement) := do
  let indexes ← t.indexes.mapM t.indexStatement
  return .createTable t.name (t.definitions tables d options) (t.optionTexts d options) ::
    t.commentStatements d options ++ indexes

/-- The text that makes a table, one statement a line. -/
def createText (t : Table) (tables : List Table) (d : Dialect) (options : GenerateOptions) :
    Except SchemaError String := do
  let statements ← t.statements tables d options
  return "\n".intercalate (statements.map (·.render d options))

end Table

end SchemaCompiler
