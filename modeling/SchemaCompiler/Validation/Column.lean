/-
**Checks of a column.**

What is wrong with a column in a dialect, and what is worth a warning. Both come as lists of
causes; the messages are made from them.
-/

import SchemaCompiler.Literal
import SchemaCompiler.Schema.Column
import SchemaCompiler.Sql.Identifier
import SchemaCompiler.Support
import SchemaCompiler.When

namespace SchemaCompiler

/-- What is wrong with a column. -/
inductive ColumnError where
  | unnamed
  | malformedName
  | unsupportedType
  | nullableNotNull
  | invalidDefault (text : String)
  | textAutoIncrement
  | misplacedAutoIncrement
  deriving DecidableEq

/-- What is worth a warning about a column. -/
inductive ColumnWarning where
  | autoIncrementOutsideKey
  | autoIncrementOmitted
  | noLength
  | noPrecision
  | checksOmitted
  deriving DecidableEq

/-! ### Messages -/

/-- A name that is not made like an identifier, in words. -/
def malformedText : String :=
  "is invalid: use letters, digits and underscores, starting with a letter or underscore"

/-- The name of a column of a table in messages. -/
def Column.label (c : Column) (table : String) : String :=
  table ++ "." ++ c.name

/-- The message of an error of a column. -/
def ColumnError.message (d : Dialect) (table : String) (c : Column) : ColumnError → String
  | .unnamed => "Column '" ++ c.id ++ "' in table '" ++ table ++ "' must have a name"
  | .malformedName =>
    "Column name '" ++ c.name ++ "' in table '" ++ table ++ "' " ++ malformedText
  | .unsupportedType =>
    "Column '" ++ c.label table ++ "': type " ++ c.dataType.name ++ " is not supported by " ++
      d.name
  | .nullableNotNull => "Column '" ++ c.label table ++ "' is nullable but carries NOT NULL"
  | .invalidDefault text =>
    "Column '" ++ c.label table ++ "': default " ++ text ++ " is not a valid " ++
      c.dataType.name ++ " value"
  | .textAutoIncrement =>
    "Column '" ++ c.label table ++ "': AUTO_INCREMENT requires a numeric type, found " ++
      c.dataType.name
  | .misplacedAutoIncrement =>
    "Column '" ++ c.label table ++ "': SQLite AUTOINCREMENT is only allowed on an INTEGER " ++
      "column that is the sole PRIMARY KEY"

/-- What is added to a warning about something that a dialect does not need. -/
def notNeededText (d : Dialect) : String :=
  if d = .sqlite then "; sqlite ignores it but other engines need one" else ""

/-- The message of a warning about a column. -/
def ColumnWarning.message (d : Dialect) (table : String) (c : Column) : ColumnWarning → String
  | .autoIncrementOutsideKey =>
    "Column '" ++ c.label table ++ "' has AUTO_INCREMENT without PRIMARY KEY"
  | .autoIncrementOmitted =>
    "Column '" ++ c.label table ++ "': AUTO_INCREMENT is not emitted for postgres; " ++
      "use an identity column or a sequence"
  | .noLength => "Column '" ++ c.label table ++ "': VARCHAR has no length" ++ notNeededText d
  | .noPrecision =>
    "Column '" ++ c.label table ++ "': " ++ c.dataType.name ++ " has no precision" ++
      notNeededText d
  | .checksOmitted =>
    "Column '" ++ c.label table ++ "': CHECK constraints are not emitted for " ++ d.name

/-! ### Checks -/

namespace Column

/-- What is wrong with the name. -/
def nameErrors (c : Column) : List ColumnError :=
  let name := Text.trim c.name
  if name = "" then [.unnamed] else when (!isValidIdentifier name) .malformedName

/-- What is wrong with the default. -/
def defaultErrors (c : Column) : List ColumnError :=
  (c.default?.toList.filter (!Literal.isValidDefault c.dataType ·)).map .invalidDefault

/-- What is wrong with the numbering of the rows. -/
def autoIncrementErrors (c : Column) (d : Dialect) (keyCount : Nat) : List ColumnError :=
  if !c.isAutoIncrement then []
  else if !c.dataType.isNumeric then [.textAutoIncrement]
  else when (d == .sqlite && !c.mayCountInSqlite keyCount) .misplacedAutoIncrement

/-- What is wrong with a column of a table whose primary key has `keyCount` columns. -/
def errors (c : Column) (d : Dialect) (keyCount : Nat) : List ColumnError :=
  c.nameErrors ++ when (!d.supports c.dataType) .unsupportedType ++
    when (c.nullable && c.has .notNull) .nullableNotNull ++ c.defaultErrors ++
    c.autoIncrementErrors d keyCount

/-- What is worth a warning about the numbering of the rows. -/
def autoIncrementWarnings (c : Column) (d : Dialect) : List ColumnWarning :=
  if c.isAutoIncrement && c.dataType.isNumeric && d != .sqlite then
    when (!c.isPrimaryKey) .autoIncrementOutsideKey ++ when (d == .postgres) .autoIncrementOmitted
  else []

/-- What is worth a warning about a column. -/
def warnings (c : Column) (d : Dialect) : List ColumnWarning :=
  c.autoIncrementWarnings d ++ when (c.dataType == .varchar && c.length.isNone) .noLength ++
    when (c.dataType.traits.acceptsPrecision && c.precision.isNone) .noPrecision ++
    when (!c.checkExpressions.isEmpty && !d.supportsConstraint (.check "")) .checksOmitted

end Column

end SchemaCompiler
