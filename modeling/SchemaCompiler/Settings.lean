/-
**Settings.**

Settings are written in TOML: a dialect and a section for each kind of options. Whatever is missing
has its default, and keys with unknown names are passed over. A section is a table, or an array of
its fields in order.
-/

import SchemaCompiler.Dictionary
import SchemaCompiler.Dialect
import SchemaCompiler.Sql.Options
import SchemaCompiler.Toml.Document

namespace SchemaCompiler

/-- The settings of all dialects for CREATE TABLE and INSERT. -/
structure LayoutSettings where
  includeComments : Bool := true
  ifNotExists : Bool := true
  pretty : Bool := false
  deriving DecidableEq

/-- The settings of the program. -/
structure Settings where
  dialect : Dialect := .postgres
  layout : LayoutSettings := {}
  mysql : MySqlOptions := {}
  postgres : PostgresOptions := {}
  sqlite : SqliteOptions := {}
  select : SelectOptions := {}
  deriving DecidableEq

/-- The options of CREATE TABLE and INSERT that settings make. -/
def Settings.generateOptions (s : Settings) : GenerateOptions :=
  { includeComments := s.layout.includeComments,
    ifNotExists := s.layout.ifNotExists,
    pretty := s.layout.pretty,
    mysql := s.mysql,
    postgres := s.postgres,
    sqlite := s.sqlite }

/-! ### Reading settings -/

namespace Toml

/-- A string. -/
def text? : Toml → Option String
  | .string value => some value
  | _ => none

/-- A truth value. -/
def flag? : Toml → Option Bool
  | .boolean value => some value
  | _ => none

/-- A value without any content: an empty array or table. -/
def isVoid : Toml → Bool
  | .array items => items.isEmpty
  | .tables items => items.isEmpty
  | .table _ entries => entries.isEmpty
  | _ => false

/-- A dialect: its name, or a table from its name to nothing. -/
def dialect? : Toml → Option Dialect
  | .string name => Dialect.all.find? (·.name == name)
  | .table _ [(name, payload)] =>
    if payload.isVoid then Dialect.all.find? (·.name == name) else none
  | _ => none

/-- The fields of a section with their names. A date has no field of any section. -/
def fields? (names : List String) : Toml → Option Entries
  | .table _ entries => some entries
  | .array items => some (names.zip items)
  | .tables items => some (names.zip (items.map (.table .header)))
  | .dateTime _ => some []
  | _ => none

/-- A field, which has a default when it is missing. -/
def field? {α : Type} (name : String) (read? : Toml → Option α) (default : α)
    (fields : Entries) : Option α :=
  match Entries.find? name fields with
  | some value => read? value
  | none => some default

/-- A section, of which every field may be missing. -/
def inSection? {α : Type} (names : List String) (read? : Entries → Option α) (value : Toml) :
    Option α :=
  (value.fields? names).bind read?

end Toml

namespace Settings

open Toml (field? inSection?)

/-- The settings of all dialects. -/
def layout? : Toml → Option LayoutSettings :=
  inSection? ["include_comments", "if_not_exists", "pretty"] fun fields => do
    let includeComments ← field? "include_comments" Toml.flag? true fields
    let ifNotExists ← field? "if_not_exists" Toml.flag? true fields
    let pretty ← field? "pretty" Toml.flag? false fields
    return { includeComments, ifNotExists, pretty }

/-- A text that may be missing from a section. -/
def optionalText? (name : String) (default : Option String) :
    Toml.Entries → Option (Option String) :=
  field? name (fun value => value.text?.map some) default

/-- The settings of MySQL. -/
def mysql? : Toml → Option MySqlOptions :=
  let defaults : MySqlOptions := {}
  inSection? ["engine", "charset", "collation"] fun fields => do
    let engine ← optionalText? "engine" defaults.engine fields
    let charset ← optionalText? "charset" defaults.charset fields
    let collation ← optionalText? "collation" defaults.collation fields
    return { engine, charset, collation }

/-- The settings of PostgreSQL. -/
def postgres? : Toml → Option PostgresOptions :=
  inSection? ["schema"] fun fields => do
    let schema ← optionalText? "schema" none fields
    return { schema }

/-- The settings of SQLite. -/
def sqlite? : Toml → Option SqliteOptions :=
  inSection? ["strict"] fun fields => do
    let strict ← field? "strict" Toml.flag? false fields
    return { strict }

/-- The settings of SELECT. -/
def select? : Toml → Option SelectOptions :=
  inSection? ["include_aliases", "pretty"] fun fields => do
    let includeAliases ← field? "include_aliases" Toml.flag? true fields
    let pretty ← field? "pretty" Toml.flag? false fields
    return { includeAliases, pretty }

/-- The settings that a TOML text writes; nothing when it is not well-formed or a value is of the
wrong kind. -/
def ofText? (text : String) : Option Settings := do
  let fields ← Toml.ofText? text
  let dialect ← field? "dialect" Toml.dialect? .postgres fields
  let layout ← field? "generate" layout? {} fields
  let mysql ← field? "mysql" mysql? {} fields
  let postgres ← field? "postgres" postgres? {} fields
  let sqlite ← field? "sqlite" sqlite? {} fields
  let select ← field? "select" select? {} fields
  return { dialect, layout, mysql, postgres, sqlite, select }

end Settings

end SchemaCompiler
