/-
**The canonical form of a schema.**

In canonical form names are trimmed, blank defaults and key names are gone, no constraint is
repeated, and the columns of a primary key say themselves that they cannot be null.
-/

import SchemaCompiler.Schema.Table

namespace SchemaCompiler

namespace Column

/-- A column of a primary key says that it cannot be null. -/
def withKeyNotNull (c : Column) : Column :=
  if !c.isPrimaryKey then c
  else
    { c with
      nullable := false,
      constraints :=
        if c.has .notNull then c.constraints else c.constraints ++ [.notNull] }

/-- The column in canonical form. -/
def normalize (c : Column) : Column :=
  withKeyNotNull
    { c with
      name := Text.trim c.name,
      defaultText := Text.trim? c.defaultText,
      constraints := c.constraints.eraseDups }

end Column

/-- The index with a trimmed name. -/
def Index.normalize (index : Index) : Index :=
  { index with name := Text.trim index.name }

/-- The relationship with a trimmed name. -/
def Relationship.normalize (r : Relationship) : Relationship :=
  { r with name := Text.trim r.name }

/-- The table in canonical form. -/
def Table.normalize (t : Table) : Table :=
  { t with
    name := Text.trim t.name,
    compositeKeyName := Text.trim? t.compositeKeyName,
    columns := t.columns.map (·.normalize),
    indexes := t.indexes.map (·.normalize),
    relationships := t.relationships.map (·.normalize) }

/-- The database in canonical form. -/
def Database.normalize (db : Database) : Database :=
  { db with name := Text.trim db.name, tables := db.tables.map (·.normalize) }

end SchemaCompiler
