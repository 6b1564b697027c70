/-
**Columns.**

A column has an opaque id and a name, a type, constraints, and overrides that only the backend of
one dialect reads.
-/

import SchemaCompiler.Constraint
import SchemaCompiler.DataType
import SchemaCompiler.Dialect
import SchemaCompiler.Dictionary

namespace SchemaCompiler

/-- A column of a table. -/
structure Column where
  id : String
  name : String
  dataType : DataType
  length : Option UInt32 := none
  precision : Option UInt32 := none
  scale : Option UInt32 := none
  nullable : Bool := true
  defaultText : Option String := none
  constraints : List Constraint := []
  comment : Option String := none
  extensions : PerDialect (Option (Dictionary String)) := ⟨none, none, none⟩
  deriving DecidableEq

namespace Column

/-! ### Building columns -/

/-- The column with one more constraint. -/
def withConstraint (constraint : Constraint) (c : Column) : Column :=
  { c with constraints := c.constraints ++ [constraint] }

/-- The column with a length. -/
def withLength (length : UInt32) (c : Column) : Column :=
  { c with length := some length }

/-- The column with a precision and a scale. -/
def withPrecision (precision scale : UInt32) (c : Column) : Column :=
  { c with precision := some precision, scale := some scale }

/-- The column as a part of the primary key, which cannot be null. -/
def asPrimaryKey (c : Column) : Column :=
  withConstraint .primaryKey { c with nullable := false }

/-- The column without null values. -/
def asNotNull (c : Column) : Column :=
  withConstraint .notNull { c with nullable := false }

/-- The column with an override for one dialect. -/
def withExtension (d : Dialect) (key value : String) (c : Column) : Column :=
  let bag := ((c.extensions.get d).getD .empty).insert key value
  { c with extensions := c.extensions.set (some bag) d }

/-! ### Asking columns -/

/-- Whether a column carries a constraint. -/
def has (c : Column) (constraint : Constraint) : Bool :=
  c.constraints.contains constraint

/-- Whether a column belongs to the primary key. -/
def isPrimaryKey (c : Column) : Bool := c.has .primaryKey

/-- Whether the values of a column are unique. -/
def isUnique (c : Column) : Bool := c.has .unique

/-- Whether a column numbers its rows. -/
def isAutoIncrement (c : Column) : Bool := c.has .autoIncrement

/-- Whether SQLite lets a column number its rows, when the primary key has `keyCount` columns. -/
def mayCountInSqlite (c : Column) (keyCount : Nat) : Bool :=
  c.dataType.isInteger && c.isPrimaryKey && keyCount == 1

/-- Whether a column has no null values. -/
def isNotNull (c : Column) : Bool :=
  !c.nullable || c.has .notNull || c.isPrimaryKey

/-- The expressions of the checks, in order. -/
def checkExpressions (c : Column) : List String :=
  c.constraints.filterMap Constraint.expression?

/-- The trimmed default, when there is one that is not blank. -/
def default? (c : Column) : Option String :=
  Text.trim? c.defaultText

/-- The override under a key for a dialect. -/
def extension? (c : Column) (d : Dialect) (key : String) : Option String :=
  (c.extensions.get d).bind (·.find? key)

end Column

end SchemaCompiler
