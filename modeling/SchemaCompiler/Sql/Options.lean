/-
**Options of generation.**

How statements are laid out, and what each dialect adds to them.
-/

namespace SchemaCompiler

/-- The table options of MySQL. -/
structure MySqlOptions where
  engine : Option String := some "InnoDB"
  charset : Option String := some "utf8mb4"
  collation : Option String := none
  deriving DecidableEq

/-- The schema that qualifies the table names of PostgreSQL. -/
structure PostgresOptions where
  schema : Option String := none
  deriving DecidableEq

/-- Whether SQLite tables are strict. -/
structure SqliteOptions where
  strict : Bool := false
  deriving DecidableEq

/-- The options of CREATE TABLE and INSERT statements. -/
structure GenerateOptions where
  includeComments : Bool := true
  ifNotExists : Bool := true
  pretty : Bool := false
  mysql : MySqlOptions := {}
  postgres : PostgresOptions := {}
  sqlite : SqliteOptions := {}
  deriving DecidableEq

/-- The options of SELECT statements. -/
structure SelectOptions where
  includeAliases : Bool := true
  pretty : Bool := false
  deriving DecidableEq

end SchemaCompiler
