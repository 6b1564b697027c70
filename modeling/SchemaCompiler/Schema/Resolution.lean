/-
**Resolving relationships.**

A relationship of a table resolves when its source column, its target table and its target column
exist. The target table is sought among the tables of the database first; a table may also refer to
itself when the list does not hold it.
-/

import SchemaCompiler.Schema.Table

namespace SchemaCompiler

/-- Both ends of a relationship. -/
structure ResolvedRelationship where
  sourceColumn : Column
  targetTable : Table
  targetColumn : Column

/-- Why a relationship does not resolve. -/
inductive Unresolved where
  | sourceColumn (column table : String)
  | targetTable (table : String)
  | targetColumn (column table : String)
  deriving DecidableEq

/-- The words for the reason. -/
def Unresolved.reason : Unresolved → String
  | .sourceColumn column table =>
    "source column '" ++ column ++ "' not found in table '" ++ table ++ "'"
  | .targetTable table => "target table '" ++ table ++ "' not found"
  | .targetColumn column table =>
    "target column '" ++ column ++ "' not found in table '" ++ table ++ "'"

namespace Relationship

/-- The table that a relationship of a table refers to. -/
def target? (r : Relationship) (table : Table) (tables : List Table) : Option Table :=
  (tableById? tables r.targetTableId).or (if r.targetTableId = table.id then some table else none)

/-- Both ends of a relationship of a table, or why it does not resolve. -/
def resolve (r : Relationship) (table : Table) (tables : List Table) :
    Except Unresolved ResolvedRelationship :=
  match table.columnById? r.sourceColumnId with
  | none => .error (.sourceColumn r.sourceColumnId table.name)
  | some sourceColumn =>
    match r.target? table tables with
    | none => .error (.targetTable r.targetTableId)
    | some targetTable =>
      match targetTable.columnById? r.targetColumnId with
      | none => .error (.targetColumn r.targetColumnId targetTable.name)
      | some targetColumn => .ok ⟨sourceColumn, targetTable, targetColumn⟩

/-- The warning for a relationship that does not resolve. -/
def skippedText (r : Relationship) (cause : Unresolved) : String :=
  "Relationship '" ++ r.displayName ++ "' skipped: " ++ cause.reason

end Relationship

end SchemaCompiler
