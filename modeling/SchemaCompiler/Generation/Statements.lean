/-
**Generating statements.**

Tables, databases, rows and queries are checked first and written only when nothing blocks them.
The tables of a database are written with every table after those that it refers to; when
relationships run in a circle they are written as declared.
-/

import SchemaCompiler.Generation.Outcome
import SchemaCompiler.Query.Alias
import SchemaCompiler.Sql.CreateTable
import SchemaCompiler.Sql.Insert
import SchemaCompiler.Sql.Select
import SchemaCompiler.Validation.Database
import SchemaCompiler.Validation.Query

namespace SchemaCompiler

namespace Table

/-- Whether a table owns a relationship. -/
def refersToTables (t : Table) : Bool := !t.ownRelationships.isEmpty

/-- The statements that make a table, for a table that is valid. -/
def generate (t : Table) (tables : List Table) (d : Dialect) (options : GenerateOptions) :
    GeneratedSql :=
  let text := (t.createText tables d options).map fun text =>
    match d.preamble? t.refersToTables with
    | some preamble => preamble ++ "\n" ++ text
    | none => text
  .ofChecked d (t.validate d) text (t.skippedRelationships tables)

/-- The statement that inserts the rows of a table, for a table that is valid. -/
def generateInsert (t : Table) (d : Dialect) (options : GenerateOptions) : GeneratedSql :=
  .ofChecked d (t.validate d) (.ok (t.insertText d options)) t.insertWarnings

end Table

namespace Database

/-- The warning for tables that cannot be written after those that they refer to. -/
def declaredOrderText : String :=
  "Tables are emitted in declared order because of a relationship cycle"

/-- The tables in the order in which they are written. -/
def writtenTables (db : Database) : List Table :=
  match Dependency.dependencyOrder? db.tables with
  | some order => order.filterMap (db.tables[·]?)
  | none => db.tables

/-- The warning for the order of the tables, if one is due. -/
def orderWarnings (db : Database) : List String :=
  if (Dependency.dependencyOrder? db.tables).isNone then [declaredOrderText] else []

/-- The texts that make the tables of a database, and before them what must come first. -/
def createTexts (db : Database) (d : Dialect) (options : GenerateOptions) :
    Except SchemaError (List String) := do
  let texts ← db.writtenTables.mapM (·.createText db.tables d options)
  return (d.preamble? (db.tables.any (·.refersToTables))).toList ++ texts

/-- The statements that make a database, for a database that is valid. -/
def generate (db : Database) (d : Dialect) (options : GenerateOptions) : GeneratedSql :=
  .ofChecked d (db.validate d) ((db.createTexts d options).map "\n\n".intercalate)
    (db.orderWarnings ++ db.writtenTables.flatMap (·.skippedRelationships db.tables))

end Database

/-- The statement of a query, for a query that is valid. -/
def Query.generate (q : Query) (d : Dialect) (options : SelectOptions) : GeneratedSql :=
  .ofChecked d q.validate (d.selectText q options) []

end SchemaCompiler
