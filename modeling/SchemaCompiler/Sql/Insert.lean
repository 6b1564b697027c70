/-
**INSERT.**

The rows of a table are written as one statement with a tuple for each row. Its columns are those
with a value in some row; a row without a value for one of them gets NULL.
-/

import SchemaCompiler.Schema.Table
import SchemaCompiler.Sql.Identifier
import SchemaCompiler.Sql.Value

namespace SchemaCompiler.Table

/-- The columns with a value in some row, in the order of the table. -/
def filledColumns (t : Table) : List Column :=
  t.columns.filter fun c => t.rows.any (·.contains c.id)

/-- The value of a row in a column. -/
def cell (d : Dialect) (c : Column) (row : Row) : String :=
  match row.find? c.id with
  | some value => d.valueLiteral value (some c.dataType)
  | none => "NULL"

/-- The values of every row in the columns with values. -/
def cells (t : Table) (d : Dialect) : List (List String) :=
  t.rows.map fun row => t.filledColumns.map fun c => cell d c row

/-- The warning for a table without any value. -/
def noRowsText (t : Table) : String :=
  "Table '" ++ t.name ++ "' has no row data"

/-- The warning for a value under no column, in a row counted from one. -/
def strayValueText (t : Table) (number : Nat) (key : String) : String :=
  "Row " ++ toString number ++ " of table '" ++ t.name ++ "' has a value for unknown column '" ++
    key ++ "'; ignored"

/-- The warnings for the values under no column. -/
def strayValues (t : Table) : List String :=
  t.rows.zipIdx.flatMap fun (row, place) =>
    (row.keys.filter fun key => (t.columnById? key).isNone).map (t.strayValueText (place + 1))

/-- The warnings of the INSERT statement. -/
def insertWarnings (t : Table) : List String :=
  t.strayValues ++ if t.filledColumns.isEmpty then [t.noRowsText] else []

/-- The text of the INSERT statement; empty when there is nothing to insert. -/
def insertText (t : Table) (d : Dialect) (options : GenerateOptions) : String :=
  let columns := t.filledColumns
  if columns.isEmpty then ""
  else
    let tuples := (t.cells d).map fun values => "(" ++ ", ".intercalate values ++ ")"
    let (lead, separator) := if options.pretty then ("\n  ", ",\n  ") else (" ", ", ")
    "INSERT INTO " ++ d.tableName options t.name ++ " (" ++
      ", ".intercalate (columns.map fun c => d.quoteIdentifier c.name) ++ ") VALUES" ++ lead ++
      separator.intercalate tuples ++ ";"

end SchemaCompiler.Table
