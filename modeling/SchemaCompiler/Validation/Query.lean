/-
**Checks of a query.**

A query without tables has that one error and no warnings. Otherwise everything in it must refer to
a selected table. Checked against a database, the tables and columns must exist there too, and a
misspelled name gets a suggestion; a missing name is reported once.
-/

import SchemaCompiler.Query.Basic
import SchemaCompiler.Schema.Table
import SchemaCompiler.Validation.Report
import SchemaCompiler.Validation.Suggestion
import SchemaCompiler.When

namespace SchemaCompiler

/-- The places of a query that refer to a column. -/
inductive ReferencePlace where
  | column
  | filter
  | having
  | groupBy
  | orderBy
  deriving DecidableEq, Repr

/-- The place in messages. -/
def ReferencePlace.text : ReferencePlace → String
  | .column => "Column"
  | .filter => "Filter"
  | .having => "HAVING condition"
  | .groupBy => "GROUP BY column"
  | .orderBy => "ORDER BY column"

/-- What is wrong with a query by itself. -/
inductive QueryError where
  | noTables
  | unselected (place : ReferencePlace) (ref : ColumnRef)
  | incompleteJoin (left right : String)
  | unselectedJoin (table : String)
  | aggregateFilter (ref : ColumnRef)
  deriving DecidableEq

/-- What is worth a warning about a query. -/
inductive QueryWarning where
  | emptyValue (ref : ColumnRef)
  | ungrouped (ref : ColumnRef)
  deriving DecidableEq

/-- A name in a query that does not exist in a database. -/
inductive MissingName where
  | table (name : String)
  | column (owner : Table) (ref : ColumnRef)

/-! ### Messages -/

/-- A column with its table in messages. -/
def ColumnRef.text (ref : ColumnRef) : String :=
  ref.table ++ "." ++ ref.column

/-- The message of an error of a query. -/
def QueryError.message : QueryError → String
  | .noTables => "Select at least one table"
  | .unselected place ref =>
    place.text ++ " '" ++ ref.text ++ "' references table '" ++ ref.table ++
      "', which is not selected"
  | .incompleteJoin left right =>
    "Join between '" ++ left ++ "' and '" ++ right ++ "' is missing a column"
  | .unselectedJoin table => "Join references table '" ++ table ++ "', which is not selected"
  | .aggregateFilter ref =>
    "Filter on '" ++ ref.text ++ "' uses an aggregate; move it to HAVING"

/-- The message of a warning about a query. -/
def QueryWarning.message : QueryWarning → String
  | .emptyValue ref => "Condition on '" ++ ref.text ++ "' has an empty value"
  | .ungrouped ref => "Column '" ++ ref.text ++ "' is neither aggregated nor in GROUP BY"

/-- The question after a missing name. -/
def suggestionText (name : String) (candidates : List String) : String :=
  match Suggestion.suggest? name candidates with
  | some meant => " Did you mean '" ++ meant ++ "'?"
  | none => ""

/-- The message for a missing name. -/
def MissingName.message (db : Database) : MissingName → String
  | .table name =>
    "Table '" ++ name ++ "' not found." ++ suggestionText name (db.tables.map (·.name))
  | .column owner ref =>
    "Column '" ++ ref.column ++ "' not found in table '" ++ ref.table ++ "'." ++
      suggestionText ref.column (owner.columns.map (·.name))

/-- The name under which a missing name is reported once. -/
def MissingName.key : MissingName → String
  | .table name => Text.lower name
  | .column _ ref => Text.lower ref.text

/-! ### Checks -/

namespace Query

/-- The error for a column whose table is not selected. -/
def selectionErrors (q : Query) (place : ReferencePlace) (ref : ColumnRef) : List QueryError :=
  when (!q.hasTable ref.table) (.unselected place ref)

/-- What is wrong with a join. -/
def joinErrors (q : Query) (j : Join) : List QueryError :=
  when (Text.allBlank j.leftColumn || Text.allBlank j.rightColumn)
      (.incompleteJoin j.leftTable j.rightTable) ++
    ([j.leftTable, j.rightTable].filter (!q.hasTable ·)).map .unselectedJoin

/-- What is wrong with a filter. -/
def filterErrors (q : Query) (c : Condition) : List QueryError :=
  q.selectionErrors .filter c.ref ++
    when c.aggregate.isPresent (.aggregateFilter c.ref)

/-- What is wrong with a query by itself. -/
def errors (q : Query) : List QueryError :=
  if q.tables.isEmpty then [.noTables]
  else
    (q.columns.flatMap fun c => q.selectionErrors .column c.ref) ++ q.joins.flatMap q.joinErrors ++
      q.filters.flatMap q.filterErrors ++
      (q.having.flatMap fun c => q.selectionErrors .having c.ref) ++
      q.groupBy.flatMap (q.selectionErrors .groupBy) ++
      q.orderBy.flatMap fun o => q.selectionErrors .orderBy o.ref

/-- Whether the value that a condition needs is blank. -/
def lacksValue (c : Condition) : Bool :=
  c.operator.takesValue && Text.allBlank c.value

/-- The selected columns that a grouped query cannot show. -/
def ungroupedColumns (q : Query) : List SelectedColumn :=
  if q.groupBy.isEmpty then []
  else q.columns.filter fun c => !c.aggregate.isPresent && !q.isGrouped c.ref

/-- What is worth a warning about a query. -/
def warnings (q : Query) : List QueryWarning :=
  if q.tables.isEmpty then []
  else
    ((q.conditions.filter lacksValue).map fun c => .emptyValue c.ref) ++
      q.ungroupedColumns.map fun c => .ungrouped c.ref

/-- The report on a query by itself. -/
def validate (q : Query) : Report :=
  .of (q.errors.map (·.message)) (q.warnings.map (·.message))

/-! ### Checks against a database -/

/-- Every reference to a column, joins by both of their sides. -/
def references (q : Query) : List ColumnRef :=
  q.columns.map (·.ref) ++ (q.joins.flatMap fun j => [j.left, j.right]) ++
    q.conditions.map (·.ref) ++ q.groupBy ++ q.orderBy.map (·.ref)

/-- The missing column of a reference. A table that does not exist is reported by itself, and a
blank column is none. -/
def missingColumn? (db : Database) (ref : ColumnRef) : Option MissingName :=
  if Text.allBlank ref.column then none
  else
    match db.tableByName? ref.table with
    | none => none
    | some table =>
      if (table.columnByName? ref.column).isSome then none else some (.column table ref)

/-- The names of a query that do not exist in a database. -/
def missingNames (q : Query) (db : Database) : List MissingName :=
  (q.tables.filter fun name => (db.tableByName? name).isNone).map .table ++
    q.references.filterMap (missingColumn? db)

/-- The report on a query against a database. -/
def validateAgainst (q : Query) (db : Database) : Report :=
  let missing := (q.missingNames db).eraseDupsBy fun a b => a.key == b.key
  let report := q.validate
  { report with errors := report.errors ++ missing.map (·.message db) }

end Query

end SchemaCompiler
