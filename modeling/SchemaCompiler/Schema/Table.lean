/-
**Tables.**

A table has columns, indexes, the relationships that start at it, and a snapshot of its rows.
-/

import SchemaCompiler.Json.Basic
import SchemaCompiler.Schema.Column
import SchemaCompiler.Schema.Relationship

namespace SchemaCompiler

/-- An index over columns, which are named by their ids. -/
structure Index where
  id : String
  name : String
  columnIds : List String
  unique : Bool := false
  deriving DecidableEq

/-- A row: a value for each of some columns, named by their ids. -/
abbrev Row := Dictionary Json

/-- A table. -/
structure Table where
  id : String
  name : String
  columns : List Column := []
  relationships : List Relationship := []
  indexes : List Index := []
  comment : Option String := none
  compositeKeyName : Option String := none
  rows : List Row := []

namespace Table

/-- The first column with an id. -/
def columnById? (t : Table) (id : String) : Option Column :=
  t.columns.find? (·.id == id)

/-- The first column with a name, up to the case of ASCII letters. -/
def columnByName? (t : Table) (name : String) : Option Column :=
  t.columns.find? fun c => Text.sameName c.name name

/-- The columns of the primary key, in order. -/
def primaryKey (t : Table) : List Column :=
  t.columns.filter (·.isPrimaryKey)

/-- The relationships that a table owns: those that name it as their source. -/
def ownRelationships (t : Table) : List Relationship :=
  t.relationships.filter (·.sourceTableId == t.id)

/-- The name of a composite primary key, when one is given. -/
def keyName? (t : Table) : Option String :=
  Text.trim? t.compositeKeyName

end Table

/-- The first table with an id. -/
def tableById? (tables : List Table) (id : String) : Option Table :=
  tables.find? (·.id == id)

/-- A database: the tables among which relationships are resolved. -/
structure Database where
  id : String
  name : String
  tables : List Table := []

namespace Database

/-- The first table of a database with an id. -/
def table? (db : Database) (id : String) : Option Table :=
  tableById? db.tables id

/-- The first table with a name, up to the case of ASCII letters. -/
def tableByName? (db : Database) (name : String) : Option Table :=
  db.tables.find? fun t => Text.sameName t.name name

/-- The database with one more table. -/
def withTable (db : Database) (t : Table) : Database :=
  { db with tables := db.tables ++ [t] }

/-- The database of a single table. -/
def ofTable (t : Table) : Database :=
  { id := t.id, name := t.name, tables := [t] }

/-- The database with its first table of an id changed. -/
def updateTable (db : Database) (id : String) (change : Table → Table) : Database :=
  { db with tables := update db.tables }
where
  /-- The change of the first table with the id. -/
  update : List Table → List Table
    | [] => []
    | t :: rest => if t.id == id then change t :: rest else t :: update rest

end Database

end SchemaCompiler
