/-
**Adapting a schema to a dialect.**

A schema is adapted by putting the nearest supported type in the place of an unsupported one, and by
dropping the lengths, precisions and constraints that the dialect has no use for.
-/

import SchemaCompiler.Schema.Table
import SchemaCompiler.Support

namespace SchemaCompiler

namespace Column

/-- The column with a type that the dialect supports; a type that takes the place of another brings
a length of its own. -/
def substituted (c : Column) (d : Dialect) : Column :=
  let target := d.substitute c.dataType
  if target = c.dataType then c
  else
    { c with
      dataType := target,
      length := Dialect.substituteLength c.dataType target,
      precision := none,
      scale := none }

/-- The column without a length or a precision that the dialect ignores. -/
def withoutIgnored (c : Column) (d : Dialect) : Column :=
  { c with
    length := if d.honorsLength c.dataType then c.length else none,
    precision := if d.honorsPrecision c.dataType then c.precision else none,
    scale := if d.honorsPrecision c.dataType then c.scale else none }

/-- The column with those of its constraints that pass a test. -/
def keeping (c : Column) (keep : Constraint → Bool) : Column :=
  { c with constraints := c.constraints.filter keep }

/-- The column without numbered rows where SQLite refuses them. -/
def withoutMisplacedCount (c : Column) (d : Dialect) (keyCount : Nat) : Column :=
  if d == .sqlite && c.isAutoIncrement && !c.mayCountInSqlite keyCount then
    c.keeping (· != .autoIncrement)
  else c

/-- The column adapted to a dialect, in a table whose primary key has `keyCount` columns. -/
def adaptTo (c : Column) (d : Dialect) (keyCount : Nat) : Column :=
  (((c.substituted d).withoutIgnored d).keeping d.supportsConstraint).withoutMisplacedCount d
    keyCount

end Column

/-- The table adapted to a dialect. -/
def Table.adaptTo (t : Table) (d : Dialect) : Table :=
  { t with columns := t.columns.map (·.adaptTo d t.primaryKey.length) }

/-- The database adapted to a dialect. -/
def Database.adaptTo (db : Database) (d : Dialect) : Database :=
  { db with tables := db.tables.map (·.adaptTo d) }

end SchemaCompiler
