/-
**Identifiers.**

A name can be written between the quotes of a dialect, or bare when it survives that: when it is
made of ASCII letters, digits and underscores, starts with no digit and is no reserved word.

* `unquoteIdentifier_quoteIdentifier` — a quoted name reads back as written.
-/

import SchemaCompiler.Dialect
import SchemaCompiler.Sql.Options
import SchemaCompiler.Text.Quoted

namespace SchemaCompiler

/-- The words that cannot name a table and that must be quoted elsewhere. -/
def reservedWords : List String :=
  [ "order", "group", "user", "table", "select", "from", "where", "join", "left", "right",
    "inner", "outer", "full", "on", "and", "or", "not", "null", "true", "false", "limit",
    "offset", "as", "in", "is", "like", "between", "having", "union", "all", "distinct", "case",
    "when", "then", "else", "end", "create", "alter", "drop", "insert", "update", "delete",
    "index", "key", "primary", "foreign", "references", "default", "constraint", "check",
    "unique", "values", "into", "set" ]

/-- Whether a name is a reserved word, in any case. -/
def isReservedWord (name : String) : Bool :=
  reservedWords.contains (Text.lower name)

/-- The characters of bare names. -/
def inBareName (c : Char) : Bool :=
  c.isAlphanum || c = '_'

/-- Whether a name is made like an identifier: a letter or underscore, then letters, digits and
underscores, all of them ASCII. -/
def isValidIdentifier (name : String) : Bool :=
  match name.toList with
  | first :: rest => (first.isAlpha || first = '_') && rest.all inBareName
  | [] => false

/-- Whether a name must be quoted to survive as written. -/
def needsQuoting (name : String) : Bool :=
  name == "" || isReservedWord name || name.toList.any (!inBareName ·) ||
    name.toList.head?.any Char.isDigit

namespace Dialect

/-- The character around quoted names. -/
def quoteMark : Dialect → Char
  | .mysql => '\x60'
  | .postgres => '"'
  | .sqlite => '"'

/-- A name between quotes. -/
def quoteIdentifier (d : Dialect) (name : String) : String :=
  Text.Quoted.quote d.quoteMark name

/-- The name between quotes; nothing when a text is not a quoted name. -/
def unquoteIdentifier? (d : Dialect) (text : String) : Option String :=
  Text.Quoted.unquote? d.quoteMark text

/-- One part of a dotted name, quoted when it must be. -/
def escapePart (d : Dialect) (part : String) : String :=
  if needsQuoting part then d.quoteIdentifier part else part

/-- A dotted name with each of its parts quoted when it must be. -/
def escapeIdentifier (d : Dialect) (name : String) : String :=
  ".".intercalate ((name.toList.splitOn '.').map fun part => d.escapePart (String.ofList part))

/-- The schema that qualifies table names. -/
def schema? (d : Dialect) (options : GenerateOptions) : Option String :=
  match d with
  | .postgres => options.postgres.schema.filter (!Text.allBlank ·)
  | _ => none

/-- The quoted name of a table, with its schema. -/
def tableName (d : Dialect) (options : GenerateOptions) (name : String) : String :=
  match d.schema? options with
  | some schema => d.quoteIdentifier schema ++ "." ++ d.quoteIdentifier name
  | none => d.quoteIdentifier name

theorem unquoteIdentifier_quoteIdentifier (d : Dialect) (name : String) :
    d.unquoteIdentifier? (d.quoteIdentifier name) = some name :=
  Text.Quoted.unquote_quote d.quoteMark name

end Dialect

end SchemaCompiler
