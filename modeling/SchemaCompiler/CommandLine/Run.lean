/-
**Running a command.**

A command loads the settings and the files that it is asked for, and what it then writes follows
from them. Whatever goes wrong on the way is a `Failure` and ends the run.
-/

import SchemaCompiler.Codec.Generation
import SchemaCompiler.Codec.Query
import SchemaCompiler.CommandLine.Arguments
import SchemaCompiler.CommandLine.Files
import SchemaCompiler.CommandLine.TypeTable
import SchemaCompiler.Generation.Statements
import SchemaCompiler.Json.Reader
import SchemaCompiler.Json.Writer
import SchemaCompiler.Migration.Adaptation
import SchemaCompiler.Migration.Difference
import SchemaCompiler.Settings

namespace SchemaCompiler.CommandLine

/-! ### Failures -/

/-- What ends a run. -/
inductive Failure where
  | noSettings (path : String)
  | unreadableSettings (cause : FileError)
  | malformedSettings
  | unreadable (path : String) (cause : FileError)
  | malformed (path : String)
  | undecodable (path : String) (cause : DecodeError)
  | notSchema (path : String) (isDatabase : Bool) (cause : DecodeError)
  | noTable (name path : String)
  | unwritable (path : String) (cause : FileError)

/-- The message of a failure. -/
def Failure.message : Failure → String
  | .noSettings path =>
    "loading config: " ++ (SchemaError.configuration ("config file not found: " ++ path)).message
  | .unreadableSettings cause =>
    "loading config: IO error: " ++ cause.message ++ ": " ++ cause.message
  | .malformedSettings => "loading config: TOML error: malformed settings"
  | .unreadable path cause => "reading " ++ path ++ ": " ++ cause.message
  | .malformed path => "parsing " ++ path ++ ": malformed JSON"
  | .undecodable path cause => "parsing " ++ path ++ ": " ++ cause.message
  | .notSchema path isDatabase cause =>
    path ++ " is not a valid " ++ (if isDatabase then "database" else "table") ++ " schema: " ++
      cause.message
  | .noTable name path => "table '" ++ name ++ "' not found in " ++ path
  | .unwritable path cause => "writing " ++ path ++ ": " ++ cause.message

/-- What a run writes, and whether it succeeds. -/
structure Outcome where
  output : String := ""
  messages : String := ""
  succeeded : Bool := true

/-- Lines, each with its end. -/
def lines (items : List String) : String :=
  String.join (items.map (· ++ "\n"))

/-- The outcome after a failure, with the messages before it. -/
def Outcome.ofFailure (messages : String) (failure : Failure) : Outcome :=
  { messages := messages ++ "Error: " ++ failure.message ++ "\n", succeeded := false }

/-- The lines for warnings and errors. -/
def reportLines (warnings errors : List String) : String :=
  lines (warnings.map ("warning: " ++ ·) ++ errors.map ("error: " ++ ·))

/-! ### Commands as functions of what they load -/

/-- The options of generation: those of the settings, changed by what is asked for. -/
def GenerateRequest.options (request : GenerateRequest) (settings : Settings) : GenerateOptions :=
  let base := settings.generateOptions
  { includeComments := base.includeComments && !request.noComments,
    ifNotExists := base.ifNotExists && !request.noIfNotExists,
    pretty := base.pretty || request.pretty,
    mysql :=
      { engine := request.engine.or base.mysql.engine,
        charset := request.charset.or base.mysql.charset,
        collation := request.collation.or base.mysql.collation },
    postgres := { schema := request.schemaName.or base.postgres.schema },
    sqlite := { strict := base.sqlite.strict || request.strict } }

/-- The outcomes of generation for one table. -/
def tableOutcomes (db : Database) (t : Table) (d : Dialect) (options : GenerateOptions)
    (inserts : Bool) : List GeneratedSql :=
  t.generate db.tables d options :: if inserts then [t.generateInsert d options] else []

/-- The outcomes of generation for a database; rows are inserted into the tables that have some. -/
def databaseOutcomes (db : Database) (d : Dialect) (options : GenerateOptions) (inserts : Bool) :
    List GeneratedSql :=
  db.generate d options ::
    if inserts then
      (db.tables.filter fun t => !t.rows.isEmpty).map fun t => t.generateInsert d options
    else []

/-- The statements that are asked for. -/
def generated (request : GenerateRequest) (settings : Settings) (db : Database) :
    Except Failure GeneratedSql :=
  let d := request.dialect.getD settings.dialect
  let options := request.options settings
  match request.table with
  | none => .ok (.merge d (databaseOutcomes db d options request.inserts))
  | some name =>
    match db.tableByName? name with
    | some t => .ok (.merge d (tableOutcomes db t d options request.inserts))
    | none => .error (.noTable name request.schema)

/-- The outcome of a validation. -/
def validated (path : String) (d : Dialect) (report : Report) : Outcome :=
  { output := if report.isValid then "✓ " ++ path ++ " is valid for " ++ d.name ++ "\n" else "",
    messages := reportLines report.warnings report.errors,
    succeeded := report.isValid }

/-- The mark of a difference. -/
def changeMark : SchemaChange → String
  | .tableAdded .. => "+"
  | .columnAdded .. => "+"
  | .tableRemoved .. => "-"
  | .columnRemoved .. => "-"
  | _ => "~"

/-- The outcome of a comparison. -/
def compared (changes : List SchemaChange) : Outcome :=
  { output :=
      if changes.isEmpty then "No changes\n"
      else lines (changes.map fun change => changeMark change ++ " " ++ change.text) }

/-- The options of a query: those of the settings, changed by what is asked for. -/
def SelectRequest.options (request : SelectRequest) (settings : Settings) : SelectOptions :=
  { includeAliases := settings.select.includeAliases && !request.noAliases,
    pretty := settings.select.pretty || request.pretty }

/-- The outcome of a query. -/
def selected (request : SelectRequest) (settings : Settings) (q : Query) : Outcome :=
  let result := q.generate (request.dialect.getD settings.dialect) (request.options settings)
  { output := if result.isOk then result.sql ++ "\n" else "",
    messages := reportLines result.warnings result.errors,
    succeeded := result.isOk }

/-- The schema that a text writes: a database when it has tables, and a table otherwise. -/
def schemaOf (path text : String) : Except Failure Database :=
  match (Json.read? text).map Json.inKeyOrder with
  | none => .error (.malformed path)
  | some value =>
    if (value.member? "tables").isSome then
      (Database.decode value).mapError (.notSchema path true)
    else ((Table.decode value).mapError (.notSchema path false)).map Database.ofTable

/-- The query that a text writes. What is not wanted of it is passed over. -/
def queryOf (path text : String) : Except Failure Query :=
  match Json.readWanted? Query.wanted text with
  | none => .error (.malformed path)
  | some value => (Query.decode value).mapError (.undecodable path)

/-! ### Commands on files -/

/-- The file of settings in the current directory. -/
def localSettings : String := "schemaforge.toml"

/-- The operations that commands use: those on files, and the path of the user's settings. -/
structure Surroundings (m : Type → Type) where
  files : FileAccess m
  userSettings : Option String

section Commands

variable {m : Type → Type} [Monad m]

/-- The text of a file. -/
def readFile (files : FileAccess m) (path : String) : ExceptT Failure m String := do
  match ← files.read path with
  | .ok text => return text
  | .error cause => throw (.unreadable path cause)

/-- The schema in a file. -/
def readSchema (files : FileAccess m) (path : String) : ExceptT Failure m Database := do
  let text ← readFile files path
  ExceptT.mk (pure (schemaOf path text))

/-- Whether a path leads to a file. -/
def isFile (files : FileAccess m) (path : String) : ExceptT Failure m Bool := do
  return (← files.kind path) == some .file

/-- The path of the settings: the file that is asked for, the one in the current directory or that
of the user. -/
def settingsPath (s : Surroundings m) (explicit : Option String) :
    ExceptT Failure m (Option String) := do
  match explicit with
  | some path =>
    if (← s.files.kind path).isNone then throw (.noSettings path)
    return some path
  | none =>
    if ← isFile s.files localSettings then return some localSettings
    match s.userSettings with
    | none => return none
    | some path =>
      if ← isFile s.files path then return some path
      return none

/-- The settings; those by default when there is no file of settings. -/
def readSettings (s : Surroundings m) (explicit : Option String) : ExceptT Failure m Settings := do
  match ← settingsPath s explicit with
  | none => return {}
  | some path =>
    match ← s.files.read path with
    | .error cause => throw (.unreadableSettings cause)
    | .ok text =>
      match Settings.ofText? text with
      | some settings => return settings
      | none => throw .malformedSettings

/-- A text, written to a file when one is named, after some messages. -/
def emit (files : FileAccess m) (messages text : String) (path : Option String) :
    ExceptT Failure m Outcome := do
  match path with
  | none => return { output := text ++ "\n", messages }
  | some path =>
    match ← files.write path (text ++ "\n") with
    | .ok () => return { messages := messages ++ "✓ Wrote " ++ path ++ "\n" }
    | .error cause => return .ofFailure messages (.unwritable path cause)

/-- Generate statements. -/
def runGenerate (files : FileAccess m) (settings : Settings) (request : GenerateRequest) :
    ExceptT Failure m Outcome := do
  let db ← readSchema files request.schema
  let result ← ExceptT.mk (pure (generated request settings db))
  if request.json then
    return { output := result.encode.indented ++ "\n", succeeded := result.isOk }
  let messages := reportLines result.warnings result.errors
  if result.isOk then emit files messages result.sql request.output
  else return { messages, succeeded := false }

/-- Adapt a schema to a dialect. -/
def runTransform (files : FileAccess m) (schema : String) (target : Dialect)
    (output : Option String) : ExceptT Failure m Outcome := do
  let db ← readSchema files schema
  let adapted := db.adaptTo target
  let messages := lines ((db.changes adapted).map fun change => "~ " ++ change.text)
  emit files messages adapted.encode.indented output

/-- Write a query, checked against a schema when one is named. -/
def runSelect (files : FileAccess m) (settings : Settings) (request : SelectRequest) :
    ExceptT Failure m Outcome := do
  let text ← readFile files request.query
  let q ← ExceptT.mk (pure (queryOf request.query text))
  match request.against with
  | none => return selected request settings q
  | some path =>
    let db ← readSchema files path
    let report := q.validateAgainst db
    if report.isValid then return selected request settings q
    else return { messages := reportLines report.warnings report.errors, succeeded := false }

/-- Run a command. -/
def runCommand (files : FileAccess m) (settings : Settings) : Command → ExceptT Failure m Outcome
  | .generate request => runGenerate files settings request
  | .validate schema dialect => do
    let db ← readSchema files schema
    let d := dialect.getD settings.dialect
    return validated schema d (db.validate d)
  | .transform schema target output => runTransform files schema target output
  | .diff old new => do
    let old ← readSchema files old
    let new ← readSchema files new
    return compared (old.changes new)
  | .select request => runSelect files settings request
  | .types dialect =>
    return { output := lines (typeTable ((dialect.map ([·])).getD Dialect.all)) }

/-- Run an invocation: load the settings, then run the command. -/
def run (s : Surroundings m) (invocation : Invocation) : m Outcome := do
  let steps : ExceptT Failure m Outcome := do
    let settings ← readSettings s invocation.settings
    runCommand s.files settings invocation.command
  match ← steps.run with
  | .ok outcome => return outcome
  | .error failure => return .ofFailure "" failure

end Commands

/-- The text that tells the version. -/
def versionText : String := "schemaforge 0.3.0"

end SchemaCompiler.CommandLine
