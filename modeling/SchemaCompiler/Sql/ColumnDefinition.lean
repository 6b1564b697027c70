/-
**Column definitions.**

A definition is the name of a column, the name of its type and a list of clauses. Which clauses a
column has, and in what order, depends on the dialect; how a clause is written does too.
-/

import SchemaCompiler.Sql.Identifier
import SchemaCompiler.Sql.TypeName
import SchemaCompiler.Sql.Value
import SchemaCompiler.When

namespace SchemaCompiler

/-- A clause of a column definition. -/
inductive ColumnClause where
  | unsigned
  | collate (collation : String)
  | notNull
  | default (operand : String)
  | onUpdate (expression : String)
  | autoIncrement
  | primaryKey
  | unique
  | check (expression : String)
  | comment (text : String)
  deriving DecidableEq

/-- The text of a clause. -/
def ColumnClause.render (d : Dialect) : ColumnClause → String
  | .unsigned => "UNSIGNED"
  | .collate collation =>
    "COLLATE " ++ if d = .postgres then d.quoteIdentifier collation else collation
  | .notNull => "NOT NULL"
  | .default operand => "DEFAULT " ++ operand
  | .onUpdate expression => "ON UPDATE " ++ expression
  | .autoIncrement => if d = .sqlite then "AUTOINCREMENT" else "AUTO_INCREMENT"
  | .primaryKey => "PRIMARY KEY"
  | .unique => "UNIQUE"
  | .check expression => "CHECK (" ++ expression ++ ")"
  | .comment text => "COMMENT " ++ d.stringLiteral text

/-- The definition of a column in a CREATE TABLE statement. -/
structure ColumnDefinition where
  name : String
  typeName : String
  clauses : List ColumnClause
  deriving DecidableEq

/-- The text of a column definition. -/
def ColumnDefinition.render (d : Dialect) (definition : ColumnDefinition) : String :=
  " ".intercalate (d.quoteIdentifier definition.name :: definition.typeName ::
    definition.clauses.map (·.render d))

namespace Column

/-- The collation of a column in a dialect. -/
def collateClause (c : Column) (d : Dialect) : List ColumnClause :=
  (c.extension? d "collate").toList.map .collate

/-- The default of a column in a dialect. -/
def defaultClause (c : Column) (d : Dialect) : List ColumnClause :=
  (d.defaultLiteral? c).toList.map .default

/-- The clauses of a column. The primary key is a clause of the column when it is the only column
of the key (`inlineKey`); comments are left out unless they are asked for. -/
def clauses (c : Column) (d : Dialect) (inlineKey comments : Bool) : List ColumnClause :=
  let isKey := inlineKey && c.isPrimaryKey
  match d with
  | .mysql =>
    when (c.dataType.isNumeric && c.extension? d "unsigned" == some "true") .unsigned ++
      c.collateClause d ++ when c.isNotNull .notNull ++ c.defaultClause d ++
      (c.extension? d "onUpdate").toList.map .onUpdate ++
      when c.isAutoIncrement .autoIncrement ++ when isKey .primaryKey ++
      when c.isUnique .unique ++ (if comments then c.comment.toList.map .comment else [])
  | .postgres =>
    c.collateClause d ++ when c.isNotNull .notNull ++ c.defaultClause d ++
      when isKey .primaryKey ++ when c.isUnique .unique ++
      c.checkExpressions.map .check
  | .sqlite =>
    c.collateClause d ++ when c.isNotNull .notNull ++ c.defaultClause d ++
      when isKey .primaryKey ++ when (isKey && c.isAutoIncrement) .autoIncrement ++
      c.checkExpressions.map .check

/-- The definition of a column. -/
def definition (c : Column) (d : Dialect) (options : GenerateOptions)
    (inlineKey comments : Bool) : ColumnDefinition :=
  ⟨c.name, d.typeName options c, c.clauses d inlineKey comments⟩

end Column

end SchemaCompiler
