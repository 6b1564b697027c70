/-
**Data types.**

One closed vocabulary of column types serves every dialect. Each type has a name, and traits that
do not depend on a dialect: its category, and whether a length or a precision belongs to it.
-/

import SchemaCompiler.Text.Blank
import SchemaCompiler.Text.Case

namespace SchemaCompiler

/-- The type of a column. -/
inductive DataType where
  | tinyInt
  | smallInt
  | mediumInt
  | integer
  | bigInt
  | decimal
  | numeric
  | float
  | double
  | real
  | char
  | varchar
  | text
  | mediumText
  | longText
  | boolean
  | bool
  | date
  | time
  | dateTime
  | timestamp
  | timestampTz
  | year
  | interval
  | binary
  | varBinary
  | blob
  | bytea
  | json
  | jsonb
  | uuid
  deriving DecidableEq, Repr

namespace DataType

/-- Every data type, in the order of the declaration. -/
def all : List DataType :=
  [ .tinyInt, .smallInt, .mediumInt, .integer, .bigInt, .decimal, .numeric, .float, .double,
    .real, .char, .varchar, .text, .mediumText, .longText, .boolean, .bool, .date, .time,
    .dateTime, .timestamp, .timestampTz, .year, .interval, .binary, .varBinary, .blob, .bytea,
    .json, .jsonb, .uuid ]

/-- The name of a type. -/
def name : DataType → String
  | .tinyInt => "TINYINT"
  | .smallInt => "SMALLINT"
  | .mediumInt => "MEDIUMINT"
  | .integer => "INTEGER"
  | .bigInt => "BIGINT"
  | .decimal => "DECIMAL"
  | .numeric => "NUMERIC"
  | .float => "FLOAT"
  | .double => "DOUBLE"
  | .real => "REAL"
  | .char => "CHAR"
  | .varchar => "VARCHAR"
  | .text => "TEXT"
  | .mediumText => "MEDIUMTEXT"
  | .longText => "LONGTEXT"
  | .boolean => "BOOLEAN"
  | .bool => "BOOL"
  | .date => "DATE"
  | .time => "TIME"
  | .dateTime => "DATETIME"
  | .timestamp => "TIMESTAMP"
  | .timestampTz => "TIMESTAMPTZ"
  | .year => "YEAR"
  | .interval => "INTERVAL"
  | .binary => "BINARY"
  | .varBinary => "VARBINARY"
  | .blob => "BLOB"
  | .bytea => "BYTEA"
  | .json => "JSON"
  | .jsonb => "JSONB"
  | .uuid => "UUID"

/-- The categories of types. -/
inductive Category where
  | numeric
  | string
  | boolean
  | temporal
  | binary
  | other
  deriving DecidableEq, Repr

/-- The name of a category. -/
def Category.name : Category → String
  | .numeric => "numeric"
  | .string => "string"
  | .boolean => "boolean"
  | .temporal => "temporal"
  | .binary => "binary"
  | .other => "other"

/-- What is true of a type in every dialect. -/
structure Traits where
  category : Category
  acceptsLength : Bool
  acceptsPrecision : Bool
  defaultLength : Option UInt32
  description : String

/-- The traits of each type. -/
def traits : DataType → Traits
  | .tinyInt => ⟨.numeric, false, false, none, "1-byte integer"⟩
  | .smallInt => ⟨.numeric, false, false, none, "2-byte integer"⟩
  | .mediumInt => ⟨.numeric, false, false, none, "3-byte integer"⟩
  | .integer => ⟨.numeric, false, false, none, "4-byte integer"⟩
  | .bigInt => ⟨.numeric, false, false, none, "8-byte integer"⟩
  | .decimal => ⟨.numeric, false, true, none, "Exact fixed-point number"⟩
  | .numeric => ⟨.numeric, false, true, none, "Exact fixed-point number"⟩
  | .float => ⟨.numeric, false, false, none, "Single-precision floating point"⟩
  | .double => ⟨.numeric, false, false, none, "Double-precision floating point"⟩
  | .real => ⟨.numeric, false, false, none, "Floating point"⟩
  | .char => ⟨.string, true, false, some 1, "Fixed-length string"⟩
  | .varchar => ⟨.string, true, false, some 255, "Variable-length string"⟩
  | .text => ⟨.string, false, false, none, "Unbounded text"⟩
  | .mediumText => ⟨.string, false, false, none, "Text up to 16 MiB"⟩
  | .longText => ⟨.string, false, false, none, "Text up to 4 GiB"⟩
  | .boolean => ⟨.boolean, false, false, none, "True/false value"⟩
  | .bool => ⟨.boolean, false, false, none, "Alias of BOOLEAN"⟩
  | .date => ⟨.temporal, false, false, none, "Calendar date"⟩
  | .time => ⟨.temporal, false, false, none, "Time of day"⟩
  | .dateTime => ⟨.temporal, false, false, none, "Date and time without zone"⟩
  | .timestamp => ⟨.temporal, false, false, none, "Point in time"⟩
  | .timestampTz => ⟨.temporal, false, false, none, "Point in time with zone"⟩
  | .year => ⟨.temporal, false, false, none, "Four-digit year"⟩
  | .interval => ⟨.temporal, false, false, none, "Time span"⟩
  | .binary => ⟨.binary, true, false, some 1, "Fixed-length bytes"⟩
  | .varBinary => ⟨.binary, true, false, some 255, "Variable-length bytes"⟩
  | .blob => ⟨.binary, false, false, none, "Binary large object"⟩
  | .bytea => ⟨.binary, false, false, none, "Byte array"⟩
  | .json => ⟨.other, false, false, none, "JSON document"⟩
  | .jsonb => ⟨.other, false, false, none, "Binary JSON document"⟩
  | .uuid => ⟨.other, false, false, none, "128-bit universally unique id"⟩

/-- The category of a type. -/
def category (t : DataType) : Category := t.traits.category

/-- Whether a type is numeric. -/
def isNumeric (t : DataType) : Bool := t.category == .numeric

/-- Whether a type belongs to the integer family. -/
def isInteger : DataType → Bool
  | .tinyInt | .smallInt | .mediumInt | .integer | .bigInt => true
  | _ => false

/-- Whether a type holds exact decimal fractions. -/
def isExactDecimal : DataType → Bool
  | .decimal | .numeric => true
  | _ => false

/-- Whether a type holds truth values. -/
def isBoolean : DataType → Bool
  | .boolean | .bool => true
  | _ => false

/-- The type that a user names, in any case and with common synonyms. -/
def ofText? (text : String) : Option DataType :=
  match Text.upper (Text.trim text) with
  | "INT" => some .integer
  | "FLOAT8" => some .double
  | "DOUBLE PRECISION" => some .double
  | "TIMESTAMP WITH TIME ZONE" => some .timestampTz
  | name => all.find? (·.name == name)

/-- The message for a name of no type. -/
def unknownText (text : String) : String :=
  "unknown data type '" ++ text ++ "'"

theorem mem_all (t : DataType) : t ∈ all := by
  cases t <;> decide

end DataType

end SchemaCompiler
