/-
**What a dialect supports.**

Which types and constraints a dialect can express, and the nearest type it supports in place of
one that it does not.

* `supports_substitute` — the substitute of a type is always supported.
* `substitute_of_supports` — a supported type is its own substitute.
-/

import SchemaCompiler.Constraint
import SchemaCompiler.DataType
import SchemaCompiler.Dialect

namespace SchemaCompiler.Dialect

/-- The types that a dialect supports. -/
def supportedTypes : Dialect → List DataType
  | .mysql =>
    [ .tinyInt, .smallInt, .mediumInt, .integer, .bigInt, .decimal, .numeric, .float, .double,
    .real, .char, .varchar, .text, .mediumText, .longText, .boolean, .bool, .date, .time,
    .dateTime, .timestamp, .year, .binary, .varBinary, .blob, .json ]
  | .postgres =>
    [ .smallInt, .integer, .bigInt, .decimal, .numeric, .float, .double, .real, .char, .varchar,
    .text, .boolean, .bool, .date, .time, .timestamp, .timestampTz, .interval, .bytea, .json,
    .jsonb, .uuid ]
  | .sqlite =>
    [ .tinyInt, .smallInt, .mediumInt, .integer, .bigInt, .decimal, .numeric, .float, .double,
    .real, .char, .varchar, .text, .boolean, .date, .time, .dateTime, .timestamp, .blob, .json,
    .uuid ]

/-- Whether a dialect supports a type. -/
def supports (d : Dialect) (t : DataType) : Bool :=
  d.supportedTypes.contains t

/-- Whether a dialect can express a constraint of a column. -/
def supportsConstraint : Dialect → Constraint → Bool
  | .mysql, .check _ => false
  | _, _ => true

/-- Whether a length on a type reaches the generated text. -/
def honorsLength (d : Dialect) (t : DataType) : Bool :=
  d != .sqlite && t.traits.acceptsLength

/-- Whether a precision on a type reaches the generated text. -/
def honorsPrecision (d : Dialect) (t : DataType) : Bool :=
  d != .sqlite && t.traits.acceptsPrecision

/-- The nearest type for one that a dialect does not support; plain text for want of a closer
one. -/
def nearest : Dialect → DataType → DataType
  | .mysql, .timestampTz => .timestamp
  | .mysql, .interval => .varchar
  | .mysql, .bytea => .blob
  | .mysql, .jsonb => .json
  | .mysql, .uuid => .char
  | .postgres, .tinyInt => .smallInt
  | .postgres, .mediumInt => .integer
  | .postgres, .mediumText => .text
  | .postgres, .longText => .text
  | .postgres, .dateTime => .timestamp
  | .postgres, .year => .smallInt
  | .postgres, .binary => .bytea
  | .postgres, .varBinary => .bytea
  | .postgres, .blob => .bytea
  | .sqlite, .mediumText => .text
  | .sqlite, .longText => .text
  | .sqlite, .bool => .boolean
  | .sqlite, .timestampTz => .text
  | .sqlite, .interval => .text
  | .sqlite, .year => .integer
  | .sqlite, .binary => .blob
  | .sqlite, .varBinary => .blob
  | .sqlite, .bytea => .blob
  | .sqlite, .jsonb => .json
  | _, _ => .text

/-- The type that stands for a type in a dialect. -/
def substitute (d : Dialect) (t : DataType) : DataType :=
  if d.supports t then t else d.nearest t

/-- The length that a substitute needs to hold the values of the type it stands for. -/
def substituteLength : DataType → DataType → Option UInt32
  | .uuid, .char => some 36
  | .interval, .varchar => some 64
  | _, _ => none

theorem supports_substitute (d : Dialect) (t : DataType) : d.supports (d.substitute t) := by
  cases d <;> cases t <;> decide

theorem substitute_of_supports {d : Dialect} {t : DataType} (supported : d.supports t) :
    d.substitute t = t := by
  simp [substitute, supported]

end SchemaCompiler.Dialect
