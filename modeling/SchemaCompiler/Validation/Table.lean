/-
**Checks of a table.**

A table without columns has that one error and no warnings. Otherwise its name, the names of its
columns, the columns themselves, its indexes and its relationships are checked, in this order.
-/

import SchemaCompiler.Schema.Table
import SchemaCompiler.Validation.Column
import SchemaCompiler.Validation.Report

namespace SchemaCompiler

/-- What is wrong with a table. -/
inductive TableError where
  | noColumns
  | unnamed
  | malformedName
  | reservedName
  | repeatedColumn (name : String)
  | column (c : Column) (error : ColumnError)
  | emptyIndex (index : String)
  | unknownIndexColumn (index id : String)
  | unknownSourceColumn (relationship id : String)
  deriving DecidableEq

/-- What is worth a warning about a table. -/
inductive TableWarning where
  | column (c : Column) (warning : ColumnWarning)
  | noPrimaryKey
  | unnamedKey (columns : Nat)
  | misplacedRelationship (relationship source : String)
  | setDefaultRejected (relationship : String)
  deriving DecidableEq

/-! ### Messages -/

/-- The message of an error of a table. -/
def TableError.message (d : Dialect) (t : Table) : TableError → String
  | .noColumns => "Table '" ++ t.name ++ "' must have at least one column"
  | .unnamed => "Table '" ++ t.id ++ "' must have a name"
  | .malformedName => "Table name '" ++ t.name ++ "' " ++ malformedText
  | .reservedName => "Table name '" ++ t.name ++ "' is a reserved word"
  | .repeatedColumn name =>
    "Duplicate column name '" ++ name ++ "' in table '" ++ t.name ++ "'"
  | .column c error => error.message d t.name c
  | .emptyIndex index => "Index '" ++ index ++ "' has no columns"
  | .unknownIndexColumn index id =>
    "Index '" ++ index ++ "' references unknown column '" ++ id ++ "' in table '" ++
      t.name ++ "'"
  | .unknownSourceColumn relationship id =>
    "Relationship '" ++ relationship ++ "' references unknown column '" ++ id ++
      "' in table '" ++ t.name ++ "'"

/-- The message of a warning about a table. -/
def TableWarning.message (d : Dialect) (t : Table) : TableWarning → String
  | .column c warning => warning.message d t.name c
  | .noPrimaryKey => "Table '" ++ t.name ++ "' has no primary key"
  | .unnamedKey columns =>
    "Table '" ++ t.name ++ "' has " ++ toString columns ++
      " PRIMARY KEY columns; give the composite key a name"
  | .misplacedRelationship relationship source =>
    "Relationship '" ++ relationship ++ "' is stored on table '" ++ t.name ++
      "' but its source is '" ++ source ++ "'; ignored"
  | .setDefaultRejected relationship =>
    "Relationship '" ++ relationship ++ "': SET DEFAULT is rejected by InnoDB"

/-! ### Checks -/

/-- A name as names are compared for repetition: trimmed, in lower case. -/
def nameKey (name : String) : String :=
  Text.lower (Text.trim name)

namespace Table

/-- What is wrong with the name. -/
def nameErrors (t : Table) : List TableError :=
  let name := Text.trim t.name
  if name = "" then [.unnamed]
  else if !isValidIdentifier name then [.malformedName]
  else when (isReservedWord name) .reservedName

/-- The columns that bear the name of an earlier one. -/
def repeatedColumns (t : Table) : List TableError :=
  (repeated (fun c => nameKey c.name) t.columns).map fun c => .repeatedColumn c.name

/-- What is wrong with the columns, each by itself. -/
def columnErrors (t : Table) (d : Dialect) : List TableError :=
  t.columns.flatMap fun c => (c.errors d t.primaryKey.length).map (.column c)

/-- What is wrong with an index. -/
def indexErrors (t : Table) (index : Index) : List TableError :=
  when index.columnIds.isEmpty (.emptyIndex index.name) ++
    (index.columnIds.filter fun id => (t.columnById? id).isNone).map
      (.unknownIndexColumn index.name)

/-- Whether a relationship starts at a column of the table. -/
def hasSource (t : Table) (r : Relationship) : Bool :=
  (t.columnById? r.sourceColumnId).isSome

/-- The own relationships that start at no column. -/
def relationshipErrors (t : Table) : List TableError :=
  (t.ownRelationships.filter (!t.hasSource ·)).map fun r =>
    .unknownSourceColumn r.displayName r.sourceColumnId

/-- What is wrong with a table. -/
def errors (t : Table) (d : Dialect) : List TableError :=
  if t.columns.isEmpty then [.noColumns]
  else
    t.nameErrors ++ t.repeatedColumns ++ t.columnErrors d ++ t.indexes.flatMap t.indexErrors ++
      t.relationshipErrors

/-- What is worth a warning about the primary key. -/
def keyWarnings (t : Table) : List TableWarning :=
  match t.primaryKey.length with
  | 0 => [.noPrimaryKey]
  | 1 => []
  | columns => when t.keyName?.isNone (.unnamedKey columns)

/-- What is worth a warning about a relationship. -/
def relationshipWarnings (t : Table) (d : Dialect) (r : Relationship) : List TableWarning :=
  if r.sourceTableId != t.id then [.misplacedRelationship r.displayName r.sourceTableId]
  else
    when (d == .mysql && (r.onDelete == .setDefault || r.onUpdate == .setDefault))
      (.setDefaultRejected r.displayName)

/-- What is worth a warning about a table. -/
def warnings (t : Table) (d : Dialect) : List TableWarning :=
  if t.columns.isEmpty then []
  else
    (t.columns.flatMap fun c => (c.warnings d).map (.column c)) ++ t.keyWarnings ++
      t.relationships.flatMap (t.relationshipWarnings d)

/-- The messages of the errors of a table. -/
def errorTexts (t : Table) (d : Dialect) : List String :=
  (t.errors d).map (·.message d t)

/-- The messages of the warnings about a table. -/
def warningTexts (t : Table) (d : Dialect) : List String :=
  (t.warnings d).map (·.message d t)

/-- The report on a table for a dialect. -/
def validate (t : Table) (d : Dialect) : Report :=
  .of (t.errorTexts d) (t.warningTexts d)

end Table

end SchemaCompiler
