/-
**Schemas as JSON.**
-/

import SchemaCompiler.Codec.Basic
import SchemaCompiler.Schema.Table

namespace SchemaCompiler

open Decode (required optional nullable record)

namespace Column

/-- The overrides of a column, from an object with a key for each dialect that has some. -/
def decodeExtensions (value : Json) :
    Except DecodeError (PerDialect (Option (Dictionary String))) := do
  let bags ← Decode.pairs (Decode.named Dialect.all Dialect.name) (Decode.dictionary Decode.text)
    value
  return bags.foldl (fun extensions (d, bag) => extensions.set (some bag) d) ⟨none, none, none⟩

/-- The overrides of a column, with a key for each dialect that has some. -/
def encodeExtensions (extensions : PerDialect (Option (Dictionary String))) :
    List (String × Json) :=
  Dialect.all.flatMap fun d =>
    Encode.present d.name (Encode.dictionary Json.string) (extensions.get d)

/-- A column. -/
def decode : Decoder Column :=
  record "Column" <|
    Column.mk <$> required "id" Decode.text <*> required "name" Decode.text
      <*> required "type" DataType.decode <*> Decode.nullable "length" Decode.word32
      <*> Decode.nullable "precision" Decode.word32
      <*> Decode.nullable "scale" Decode.word32
      <*> optional "nullable" Decode.bool true <*> Decode.nullable "default" Decode.text
      <*> optional "constraints" (Decode.list Constraint.decode) []
      <*> Decode.nullable "comment" Decode.text
      <*> optional "extensions" decodeExtensions ⟨none, none, none⟩

/-- The object of a column. -/
def encode (c : Column) : Json :=
  let extensions := encodeExtensions c.extensions
  .object <|
    [("id", .string c.id), ("name", .string c.name), ("type", c.dataType.encode)] ++
      Encode.present "length" Encode.word32 c.length ++
      Encode.present "precision" Encode.word32 c.precision ++
      Encode.present "scale" Encode.word32 c.scale ++
      [("nullable", .bool c.nullable)] ++ Encode.present "default" Json.string c.defaultText ++
      [("constraints", Encode.list Constraint.encode c.constraints)] ++
      Encode.present "comment" Json.string c.comment ++
      if extensions.isEmpty then [] else [("extensions", .object extensions)]

end Column

namespace Index

/-- An index. -/
def decode : Decoder Index :=
  record "Index" <|
    Index.mk <$> required "id" Decode.text <*> required "name" Decode.text
      <*> required "columnIds" (Decode.list Decode.text) <*> optional "unique" Decode.bool false

/-- The object of an index. -/
def encode (index : Index) : Json :=
  .object
    [("id", .string index.id), ("name", .string index.name),
      ("columnIds", .texts index.columnIds), ("unique", .bool index.unique)]

end Index

namespace Relationship

/-- A relationship. -/
def decode : Decoder Relationship :=
  record "Relationship" <|
    Relationship.mk <$> required "id" Decode.text <*> optional "name" Decode.text ""
      <*> required "sourceTableId" Decode.text <*> required "sourceColumnId" Decode.text
      <*> required "targetTableId" Decode.text <*> required "targetColumnId" Decode.text
      <*> optional "cardinality" Cardinality.decode .oneToMany
      <*> optional "onDelete" ReferentialAction.decode .noAction
      <*> optional "onUpdate" ReferentialAction.decode .noAction

/-- The object of a relationship. -/
def encode (r : Relationship) : Json :=
  .object
    [("id", .string r.id), ("name", .string r.name), ("sourceTableId", .string r.sourceTableId),
      ("sourceColumnId", .string r.sourceColumnId), ("targetTableId", .string r.targetTableId),
      ("targetColumnId", .string r.targetColumnId), ("cardinality", r.cardinality.encode),
      ("onDelete", r.onDelete.encode), ("onUpdate", r.onUpdate.encode)]

end Relationship

/-- A row: an object from ids of columns to values. -/
def decodeRow (value : Json) : Except DecodeError Row :=
  Decode.dictionary Decode.json value

/-- The object of a row. -/
def encodeRow (row : Row) : Json :=
  Encode.dictionary (fun value => value) row

namespace Table

/-- A table. -/
def decode : Decoder Table :=
  record "Table" <|
    Table.mk <$> required "id" Decode.text <*> required "name" Decode.text
      <*> optional "columns" (Decode.list Column.decode) []
      <*> optional "relationships" (Decode.list Relationship.decode) []
      <*> optional "indexes" (Decode.list Index.decode) []
      <*> nullable "comment" Decode.text <*> nullable "compositeKeyName" Decode.text
      <*> optional "rows" (Decode.list decodeRow) []

/-- The object of a table. -/
def encode (t : Table) : Json :=
  .object <|
    [("id", .string t.id), ("name", .string t.name),
      ("columns", Encode.list Column.encode t.columns),
      ("relationships", Encode.list Relationship.encode t.relationships),
      ("indexes", Encode.list Index.encode t.indexes)] ++
      Encode.present "comment" Json.string t.comment ++
      Encode.present "compositeKeyName" Json.string t.compositeKeyName ++
      if t.rows.isEmpty then [] else [("rows", Encode.list encodeRow t.rows)]

end Table

namespace Database

/-- A database. -/
def decode : Decoder Database :=
  record "Database" <|
    Database.mk <$> required "id" Decode.text <*> required "name" Decode.text
      <*> optional "tables" (Decode.list Table.decode) []

/-- The object of a database. -/
def encode (db : Database) : Json :=
  .object
    [("id", .string db.id), ("name", .string db.name),
      ("tables", Encode.list Table.encode db.tables)]

end Database

end SchemaCompiler
