/-
**Checks of a database.**

The checks of its tables, and those that concern several tables: repeated names, relationships that
do not resolve, and circles of relationships.
-/

import SchemaCompiler.Schema.Dependency
import SchemaCompiler.Schema.Resolution
import SchemaCompiler.Validation.Table

namespace SchemaCompiler

/-- What is wrong with a database. -/
inductive DatabaseError where
  | repeatedTable (name : String)
  | table (t : Table) (error : TableError)

/-- What is worth a warning about a database. -/
inductive DatabaseWarning where
  | table (t : Table) (warning : TableWarning)
  | unresolved (relationship : Relationship) (cause : Unresolved)
  | cycle (tables : List String)

/-- The message of an error of a database. -/
def DatabaseError.message (d : Dialect) : DatabaseError → String
  | .repeatedTable name => "Duplicate table name '" ++ name ++ "'"
  | .table t error => error.message d t

/-- The message of a warning about a database. -/
def DatabaseWarning.message (d : Dialect) : DatabaseWarning → String
  | .table t warning => warning.message d t
  | .unresolved relationship cause => relationship.skippedText cause
  | .cycle tables => "Relationship cycle detected: " ++ " -> ".intercalate tables

namespace Database

/-- The tables that bear the name of an earlier one. -/
def repeatedTables (db : Database) : List DatabaseError :=
  (repeated (fun t => nameKey t.name) db.tables).map fun t => .repeatedTable t.name

/-- What is wrong with a database. -/
def errors (db : Database) (d : Dialect) : List DatabaseError :=
  db.repeatedTables ++ db.tables.flatMap fun t => (t.errors d).map (.table t)

/-- The own relationships of a table that do not resolve; those that start at no column are errors
already. -/
def unresolved (db : Database) (t : Table) : List DatabaseWarning :=
  (t.ownRelationships.filter t.hasSource).filterMap fun r =>
    match r.resolve t db.tables with
    | .ok _ => none
    | .error cause => some (.unresolved r cause)

/-- What is worth a warning about a database. -/
def warnings (db : Database) (d : Dialect) : List DatabaseWarning :=
  (db.tables.flatMap fun t => (t.warnings d).map (.table t) ++ db.unresolved t) ++
    (Dependency.findCycle? db.tables).toList.map .cycle

/-- The report on a database for a dialect. -/
def validate (db : Database) (d : Dialect) : Report :=
  .of ((db.errors d).map (·.message d)) ((db.warnings d).map (·.message d))

end Database

end SchemaCompiler
