/-
**Values in SQL text.**

How a dialect writes strings, truth values, values of rows, and the defaults of columns.
-/

import SchemaCompiler.Json.Writer
import SchemaCompiler.Literal
import SchemaCompiler.Schema.Column

namespace SchemaCompiler.Dialect

/-- One character of a string. A quote is written twice, and where a backslash escapes so is a
backslash. -/
def stringChar (d : Dialect) (c : Char) : List Char :=
  if c = '\'' then ['\'', '\'']
  else if c = '\\' ∧ d = .mysql then ['\\', '\\']
  else [c]

/-- A string between single quotes. -/
def stringLiteral (d : Dialect) (text : String) : String :=
  "'" ++ String.ofList (text.toList.flatMap d.stringChar) ++ "'"

/-- A truth value. -/
def boolLiteral : Dialect → Bool → String
  | .postgres, true => "TRUE"
  | .postgres, false => "FALSE"
  | .mysql, true => "1"
  | .mysql, false => "0"
  | .sqlite, true => "1"
  | .sqlite, false => "0"

/-- How a dialect spells a function that may be a default. -/
def functionText? : Dialect → String → Option String
  | .mysql, "CURRENT_TIMESTAMP" => some "CURRENT_TIMESTAMP"
  | .mysql, "CURRENT_TIMESTAMP()" => some "CURRENT_TIMESTAMP"
  | .mysql, "NOW()" => some "CURRENT_TIMESTAMP"
  | .mysql, "LOCALTIMESTAMP" => some "CURRENT_TIMESTAMP"
  | .mysql, "CURRENT_DATE" => some "(CURRENT_DATE)"
  | .mysql, "CURRENT_TIME" => some "(CURRENT_TIME)"
  | .mysql, "UUID()" => some "(UUID())"
  | .mysql, "GEN_RANDOM_UUID()" => some "(UUID())"
  | .postgres, "CURRENT_TIMESTAMP" => some "CURRENT_TIMESTAMP"
  | .postgres, "CURRENT_TIMESTAMP()" => some "CURRENT_TIMESTAMP"
  | .postgres, "NOW()" => some "CURRENT_TIMESTAMP"
  | .postgres, "LOCALTIMESTAMP" => some "LOCALTIMESTAMP"
  | .postgres, "CURRENT_DATE" => some "CURRENT_DATE"
  | .postgres, "CURRENT_TIME" => some "CURRENT_TIME"
  | .postgres, "UUID()" => some "gen_random_uuid()"
  | .postgres, "GEN_RANDOM_UUID()" => some "gen_random_uuid()"
  | .sqlite, "CURRENT_TIMESTAMP" => some "CURRENT_TIMESTAMP"
  | .sqlite, "CURRENT_TIMESTAMP()" => some "CURRENT_TIMESTAMP"
  | .sqlite, "NOW()" => some "CURRENT_TIMESTAMP"
  | .sqlite, "LOCALTIMESTAMP" => some "CURRENT_TIMESTAMP"
  | .sqlite, "CURRENT_DATE" => some "CURRENT_DATE"
  | .sqlite, "CURRENT_TIME" => some "CURRENT_TIME"
  | .sqlite, "UUID()" => some "(lower(hex(randomblob(16))))"
  | .sqlite, "GEN_RANDOM_UUID()" => some "(lower(hex(randomblob(16))))"
  | _, _ => none

/-- A text that a user entered as a value of a type: a number for a numeric type and a truth value
for a boolean type when the text is one, and otherwise a string. -/
def textLiteral (d : Dialect) (text : String) (type? : Option DataType) : String :=
  match type?.map DataType.category with
  | some .numeric =>
    if Literal.isDecimal (Text.trim text) then Text.trim text else d.stringLiteral text
  | some .boolean =>
    match Literal.bool? text with
    | some value => d.boolLiteral value
    | none => d.stringLiteral text
  | _ => d.stringLiteral text

/-- A value of a row. Arrays and objects are written as strings that hold their JSON text. -/
def valueLiteral (d : Dialect) (value : Json) (type? : Option DataType) : String :=
  match value with
  | .null => "NULL"
  | .bool value => d.boolLiteral value
  | .number value => value.text
  | .string value => d.textLiteral value type?
  | .array items => d.stringLiteral (Json.array items).compact
  | .object members => d.stringLiteral (Json.object members).compact

/-- The operand of the DEFAULT clause of a column, when there is one. -/
def defaultLiteral? (d : Dialect) (c : Column) : Option String :=
  c.default?.map fun text =>
    if Literal.isNull text then "NULL"
    else
      match Literal.function? text with
      | some function => (d.functionText? function).getD (d.stringLiteral text)
      | none =>
        if Literal.isExpression text then text
        else d.textLiteral (Literal.unquote text) (some c.dataType)

end SchemaCompiler.Dialect
