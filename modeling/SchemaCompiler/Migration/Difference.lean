/-
**Differences of two versions of a schema.**

The differences of two tables are a new name, the columns that were added, those that were removed,
and then, column by column in the order of the old table, what changed. Databases are compared in
the same way, table by table.
-/

import SchemaCompiler.Migration.Pairing
import SchemaCompiler.Schema.Table

namespace SchemaCompiler

/-- A change of a column. -/
inductive ColumnChange where
  | renamed (old new : String)
  | dataType (old new : DataType)
  | nullability (nullable : Bool)
  | length (old new : Option UInt32)
  | precision (old new : Option UInt32 × Option UInt32)
  | default (old new : Option String)
  | constraintAdded (constraint : Constraint)
  | constraintRemoved (constraint : Constraint)
  deriving DecidableEq

/-- A difference of two versions of a schema. -/
inductive SchemaChange where
  | tableAdded (table : String)
  | tableRemoved (table : String)
  | tableRenamed (old new : String)
  | columnAdded (table column : String)
  | columnRemoved (table column : String)
  | columnChanged (table column : String) (change : ColumnChange)
  deriving DecidableEq

/-! ### Texts -/

/-- The kind of a change of a column. -/
def ColumnChange.kind : ColumnChange → String
  | .renamed .. => "ColumnRenamed"
  | .dataType .. => "TypeChanged"
  | .nullability .. => "NullabilityChanged"
  | .length .. => "LengthChanged"
  | .precision .. => "PrecisionChanged"
  | .default .. => "DefaultChanged"
  | .constraintAdded .. => "ConstraintAdded"
  | .constraintRemoved .. => "ConstraintRemoved"

/-- The kind of a difference. -/
def SchemaChange.kind : SchemaChange → String
  | .tableAdded .. => "TableAdded"
  | .tableRemoved .. => "TableRemoved"
  | .tableRenamed .. => "TableRenamed"
  | .columnAdded .. => "ColumnAdded"
  | .columnRemoved .. => "ColumnRemoved"
  | .columnChanged _ _ change => change.kind

/-- A length in words. -/
def lengthText : Option UInt32 → String
  | some length => toString length
  | none => "none"

/-- A precision with its scale in words. -/
def precisionText : Option UInt32 × Option UInt32 → String
  | (some p, some s) => "(" ++ toString p ++ "," ++ toString s ++ ")"
  | (some p, none) => "(" ++ toString p ++ ")"
  | (none, _) => "none"

/-- What happened to a column. -/
def ColumnChange.text : ColumnChange → String
  | .renamed _ new => "renamed to '" ++ new ++ "'"
  | .dataType old new => "type changed from " ++ old.name ++ " to " ++ new.name
  | .nullability nullable => if nullable then "is now nullable" else "is now NOT NULL"
  | .length old new => "length changed from " ++ lengthText old ++ " to " ++ lengthText new
  | .precision old new =>
    "precision changed from " ++ precisionText old ++ " to " ++ precisionText new
  | .default old new =>
    "default changed from " ++ old.getD "none" ++ " to " ++ new.getD "none"
  | .constraintAdded constraint => "gained " ++ constraint.text
  | .constraintRemoved constraint => "lost " ++ constraint.text

/-- The name of the column that a change speaks of: the new one, except in a renaming. -/
def ColumnChange.subject (column : String) : ColumnChange → String
  | .renamed old _ => old
  | _ => column

/-- A difference in words. -/
def SchemaChange.text : SchemaChange → String
  | .tableAdded table => "Table '" ++ table ++ "' added"
  | .tableRemoved table => "Table '" ++ table ++ "' removed"
  | .tableRenamed old new => "Table '" ++ old ++ "' renamed to '" ++ new ++ "'"
  | .columnAdded table column => "Column '" ++ table ++ "." ++ column ++ "' added"
  | .columnRemoved table column => "Column '" ++ table ++ "." ++ column ++ "' removed"
  | .columnChanged table column change =>
    "Column '" ++ table ++ "." ++ change.subject column ++ "' " ++ change.text

/-! ### Differences -/

/-- A change between two values, when they differ. -/
def changed {α β : Type} [DecidableEq α] (change : α → α → β) (old new : α) : List β :=
  if old = new then [] else [change old new]

/-- What changed from one version of a column to another. -/
def Column.changes (old new : Column) : List ColumnChange :=
  changed .renamed old.name new.name ++
    changed .dataType old.dataType new.dataType ++
    changed (fun _ notNull => .nullability !notNull) old.isNotNull new.isNotNull ++
    changed .length old.length new.length ++
    changed .precision (old.precision, old.scale) (new.precision, new.scale) ++
    changed .default old.default? new.default? ++
    (new.constraints.filter (!old.has ·)).map .constraintAdded ++
    (old.constraints.filter (!new.has ·)).map .constraintRemoved

/-- The places of the partners of the columns of a table in a new version of it. -/
def Table.columnPartners (old new : Table) : List (Option Nat) :=
  Pairing.partners (·.id) (·.name) old.columns new.columns

/-- The differences of two versions of a table. -/
def Table.changes (old new : Table) : List SchemaChange :=
  let places := old.columnPartners new
  changed .tableRenamed old.name new.name ++
    (Pairing.added places new.columns).map (fun c => .columnAdded new.name c.name) ++
    (Pairing.removed old.columns places).map (fun c => .columnRemoved new.name c.name) ++
    (Pairing.pairs old.columns places new.columns).flatMap fun (c, other) =>
      (c.changes other).map (.columnChanged new.name other.name)

/-- The places of the partners of the tables of a database in a new version of it. -/
def Database.tablePartners (old new : Database) : List (Option Nat) :=
  Pairing.partners (·.id) (·.name) old.tables new.tables

/-- The differences of two versions of a database. -/
def Database.changes (old new : Database) : List SchemaChange :=
  let places := old.tablePartners new
  (Pairing.added places new.tables).map (fun t => .tableAdded t.name) ++
    (Pairing.removed old.tables places).map (fun t => .tableRemoved t.name) ++
    (Pairing.pairs old.tables places new.tables).flatMap fun (t, other) => t.changes other

end SchemaCompiler
