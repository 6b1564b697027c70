/-
**Constraints of a column.**
-/

namespace SchemaCompiler

/-- A constraint of a column. The foreign key and default markers describe; relationships and the
default of the column decide what is generated. -/
inductive Constraint where
  | primaryKey
  | unique
  | notNull
  | autoIncrement
  | foreignKey
  | check (expression : String)
  | default
  deriving DecidableEq

namespace Constraint

/-- The kind of a constraint. -/
def label : Constraint → String
  | .primaryKey => "PRIMARY_KEY"
  | .unique => "UNIQUE"
  | .notNull => "NOT_NULL"
  | .autoIncrement => "AUTO_INCREMENT"
  | .foreignKey => "FOREIGN_KEY"
  | .check _ => "CHECK"
  | .default => "DEFAULT"

/-- The text of a constraint in messages. -/
def text : Constraint → String
  | .check expression => "CHECK (" ++ expression ++ ")"
  | constraint => constraint.label

/-- The expression of a check. -/
def expression? : Constraint → Option String
  | .check expression => some expression
  | _ => none

end Constraint

end SchemaCompiler
