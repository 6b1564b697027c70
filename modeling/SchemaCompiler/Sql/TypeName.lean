/-
**Type names.**

How each dialect spells the type of a column. An override of the column goes before the spelling
of its type.
-/

import SchemaCompiler.Schema.Column
import SchemaCompiler.Sql.Options

namespace SchemaCompiler

/-- A type name with a length, if any. -/
def lengthened (name : String) : Option UInt32 → String
  | some length => name ++ "(" ++ toString length ++ ")"
  | none => name

/-- A type name with the length of a column, or with the default length of its type. -/
def sized (name : String) (c : Column) : String :=
  lengthened name (c.length.or c.dataType.traits.defaultLength)

/-- The precision and scale of a column in parentheses, as far as they are given. -/
def precisionSuffix (c : Column) : String :=
  match c.precision, c.scale with
  | some p, some s => "(" ++ toString p ++ "," ++ toString s ++ ")"
  | some p, none => "(" ++ toString p ++ ")"
  | none, _ => ""

/-- The MySQL name of the type of a column. -/
def mysqlTypeName (c : Column) : String :=
  match c.dataType with
  | .tinyInt => "TINYINT"
  | .smallInt => "SMALLINT"
  | .mediumInt => "MEDIUMINT"
  | .integer => "INT"
  | .bigInt => "BIGINT"
  | .decimal => "DECIMAL" ++ precisionSuffix c
  | .numeric => "NUMERIC" ++ precisionSuffix c
  | .float => "FLOAT"
  | .double => "DOUBLE"
  | .real => "DOUBLE"
  | .char => sized "CHAR" c
  | .varchar => sized "VARCHAR" c
  | .text => "TEXT"
  | .mediumText => "MEDIUMTEXT"
  | .longText => "LONGTEXT"
  | .boolean => "BOOLEAN"
  | .bool => "BOOLEAN"
  | .date => "DATE"
  | .time => "TIME"
  | .dateTime => "DATETIME"
  | .timestamp => "TIMESTAMP"
  | .timestampTz => "TIMESTAMP"
  | .year => "YEAR"
  | .interval => "VARCHAR(64)"
  | .binary => sized "BINARY" c
  | .varBinary => sized "VARBINARY" c
  | .blob => "BLOB"
  | .bytea => "BLOB"
  | .json => "JSON"
  | .jsonb => "JSON"
  | .uuid => "CHAR(36)"

/-- The PostgreSQL name of the type of a column. -/
def postgresTypeName (c : Column) : String :=
  match c.dataType with
  | .tinyInt => "SMALLINT"
  | .smallInt => "SMALLINT"
  | .mediumInt => "INTEGER"
  | .integer => "INTEGER"
  | .bigInt => "BIGINT"
  | .decimal => "DECIMAL" ++ precisionSuffix c
  | .numeric => "NUMERIC" ++ precisionSuffix c
  | .float => "REAL"
  | .double => "DOUBLE PRECISION"
  | .real => "REAL"
  | .char => lengthened "CHAR" (some (c.length.getD 1))
  | .varchar => lengthened "VARCHAR" c.length
  | .text => "TEXT"
  | .mediumText => "TEXT"
  | .longText => "TEXT"
  | .boolean => "BOOLEAN"
  | .bool => "BOOLEAN"
  | .date => "DATE"
  | .time => "TIME"
  | .dateTime => "TIMESTAMP"
  | .timestamp => "TIMESTAMP"
  | .timestampTz => "TIMESTAMPTZ"
  | .year => "SMALLINT"
  | .interval => "INTERVAL"
  | .binary => "BYTEA"
  | .varBinary => "BYTEA"
  | .blob => "BYTEA"
  | .bytea => "BYTEA"
  | .json => "JSONB"
  | .jsonb => "JSONB"
  | .uuid => "UUID"

/-- The SQLite name of a type. Strict tables know fewer names. -/
def sqliteTypeName (strict : Bool) : DataType → String
  | .tinyInt => "INTEGER"
  | .smallInt => "INTEGER"
  | .mediumInt => "INTEGER"
  | .integer => "INTEGER"
  | .bigInt => "INTEGER"
  | .decimal => if strict then "REAL" else "NUMERIC"
  | .numeric => if strict then "REAL" else "NUMERIC"
  | .float => "REAL"
  | .double => "REAL"
  | .real => "REAL"
  | .char => "TEXT"
  | .varchar => "TEXT"
  | .text => "TEXT"
  | .mediumText => "TEXT"
  | .longText => "TEXT"
  | .boolean => "INTEGER"
  | .bool => "INTEGER"
  | .date => "TEXT"
  | .time => "TEXT"
  | .dateTime => "TEXT"
  | .timestamp => "TEXT"
  | .timestampTz => "TEXT"
  | .year => "INTEGER"
  | .interval => "TEXT"
  | .binary => "BLOB"
  | .varBinary => "BLOB"
  | .blob => "BLOB"
  | .bytea => "BLOB"
  | .json => "TEXT"
  | .jsonb => "TEXT"
  | .uuid => "TEXT"

namespace Dialect

/-- The name of the type of a column. -/
def typeName (d : Dialect) (options : GenerateOptions) (c : Column) : String :=
  (c.extension? d "type").getD <|
    match d with
    | .mysql => mysqlTypeName c
    | .postgres => postgresTypeName c
    | .sqlite => sqliteTypeName options.sqlite.strict c.dataType

end Dialect

end SchemaCompiler
