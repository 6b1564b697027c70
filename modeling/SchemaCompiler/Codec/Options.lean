/-
**Options as JSON.**

Every field of the options may be missing; a field without a value is null.
-/

import SchemaCompiler.Json.Decode
import SchemaCompiler.Sql.Options

namespace SchemaCompiler

open Decode (optional record)

namespace MySqlOptions

/-- The table options of MySQL. -/
def decode : Decoder MySqlOptions :=
  let defaults : MySqlOptions := {}
  record "MySqlOptions" <|
    MySqlOptions.mk <$> optional "engine" (Decode.option Decode.text) defaults.engine
      <*> optional "charset" (Decode.option Decode.text) defaults.charset
      <*> optional "collation" (Decode.option Decode.text) defaults.collation

/-- The object of the options. -/
def encode (o : MySqlOptions) : Json :=
  .object
    [("engine", .optionalText o.engine), ("charset", .optionalText o.charset),
      ("collation", .optionalText o.collation)]

end MySqlOptions

namespace PostgresOptions

/-- The schema of PostgreSQL. -/
def decode : Decoder PostgresOptions :=
  record "PostgresOptions" <|
    PostgresOptions.mk <$> Decode.nullable "schema" Decode.text

/-- The object of the options. -/
def encode (o : PostgresOptions) : Json :=
  .object [("schema", .optionalText o.schema)]

end PostgresOptions

namespace SqliteOptions

/-- Whether SQLite tables are strict. -/
def decode : Decoder SqliteOptions :=
  record "SqliteOptions" <| SqliteOptions.mk <$> optional "strict" Decode.bool false

/-- The object of the options. -/
def encode (o : SqliteOptions) : Json :=
  .object [("strict", .bool o.strict)]

end SqliteOptions

namespace GenerateOptions

/-- The options of CREATE TABLE and INSERT. -/
def decode : Decoder GenerateOptions :=
  record "GenerateOptions" <|
    GenerateOptions.mk <$> optional "include_comments" Decode.bool true
      <*> optional "if_not_exists" Decode.bool true <*> optional "pretty" Decode.bool false
      <*> optional "mysql" MySqlOptions.decode {} <*> optional "postgres" PostgresOptions.decode {}
      <*> optional "sqlite" SqliteOptions.decode {}

/-- The object of the options. -/
def encode (o : GenerateOptions) : Json :=
  .object
    [("include_comments", .bool o.includeComments), ("if_not_exists", .bool o.ifNotExists),
      ("pretty", .bool o.pretty), ("mysql", o.mysql.encode), ("postgres", o.postgres.encode),
      ("sqlite", o.sqlite.encode)]

end GenerateOptions

namespace SelectOptions

/-- The options of SELECT. -/
def decode : Decoder SelectOptions :=
  record "SelectOptions" <|
    SelectOptions.mk <$> optional "include_aliases" Decode.bool true
      <*> optional "pretty" Decode.bool false

/-- The object of the options. -/
def encode (o : SelectOptions) : Json :=
  .object [("include_aliases", .bool o.includeAliases), ("pretty", .bool o.pretty)]

end SelectOptions

end SchemaCompiler
