/-
**SQL dialects.**

The three dialects, their names, and values that are given for each dialect.
-/

import SchemaCompiler.Text.Blank
import SchemaCompiler.Text.Case

namespace SchemaCompiler

/-- A dialect of SQL. -/
inductive Dialect where
  | mysql
  | postgres
  | sqlite
  deriving DecidableEq, Repr

namespace Dialect

/-- Every dialect, in the order of the declaration. -/
def all : List Dialect := [.mysql, .postgres, .sqlite]

/-- The name of a dialect. -/
def name : Dialect → String
  | .mysql => "mysql"
  | .postgres => "postgres"
  | .sqlite => "sqlite"

/-- The dialect that a user names, in any case and with common synonyms. -/
def ofText? (text : String) : Option Dialect :=
  match Text.lower (Text.trim text) with
  | "mysql" => some .mysql
  | "mariadb" => some .mysql
  | "postgres" => some .postgres
  | "postgresql" => some .postgres
  | "pg" => some .postgres
  | "sqlite" => some .sqlite
  | "sqlite3" => some .sqlite
  | _ => none

end Dialect

/-- A value for each dialect. -/
structure PerDialect (α : Type) where
  mysql : α
  postgres : α
  sqlite : α
  deriving DecidableEq

namespace PerDialect

variable {α : Type}

/-- The value for a dialect. -/
def get (values : PerDialect α) : Dialect → α
  | .mysql => values.mysql
  | .postgres => values.postgres
  | .sqlite => values.sqlite

/-- The values with the one for a dialect replaced. -/
def set (values : PerDialect α) (value : α) : Dialect → PerDialect α
  | .mysql => { values with mysql := value }
  | .postgres => { values with postgres := value }
  | .sqlite => { values with sqlite := value }

/-- The values of a function. -/
def of (f : Dialect → α) : PerDialect α :=
  ⟨f .mysql, f .postgres, f .sqlite⟩

theorem get_of (f : Dialect → α) (d : Dialect) : (of f).get d = f d := by
  cases d <;> rfl

theorem get_set (values : PerDialect α) (value : α) (d other : Dialect) :
    (values.set value d).get other = if other = d then value else values.get other := by
  cases d <;> cases other <;> rfl

theorem ext {a b : PerDialect α} (same : ∀ d, a.get d = b.get d) : a = b := by
  cases a
  cases b
  have mysqlSame := same .mysql
  have postgresSame := same .postgres
  have sqliteSame := same .sqlite
  simp_all [get]

end PerDialect

end SchemaCompiler
