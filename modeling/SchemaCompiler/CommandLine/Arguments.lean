/-
**Reading the arguments of the command line.**

The arguments are read one after the other: the options of the program, the name of a command, then
the options and words of that command. An option is given at most once at each of the two levels.
Its value is attached to it or is the next argument, which then does not look like an option. After
two dashes every argument is a word.
-/

import SchemaCompiler.Dialect

namespace SchemaCompiler.CommandLine

/-- What the value of an option must be like. -/
inductive ValueKind where
  | text
  | path
  | dialect
  deriving DecidableEq

/-- Whether a text can be a value of a kind. -/
def ValueKind.accepts : ValueKind → String → Bool
  | .text, _ => true
  | .path, value => value ≠ ""
  | .dialect, value => (Dialect.ofText? value).isSome

/-- An option: a flag, or one with a value of some kind. -/
structure CommandOption where
  long : String
  short : Option Char := none
  value : Option ValueKind := none

/-- Why the arguments do not make a command to run. -/
inductive Stop where
  | usage
  | version
  deriving DecidableEq, Repr

/-- The options and words that have been read, and an option that waits for its value. -/
structure Arguments where
  given : List (String × String) := []
  words : List String := []
  pending : Option CommandOption := none
  onlyWords : Bool := false

namespace Arguments

/-- Whether an option has been given. -/
def has (a : Arguments) (name : String) : Bool :=
  (a.given.lookup name).isSome

/-- The value of an option. -/
def value? (a : Arguments) (name : String) : Option String :=
  a.given.lookup name

/-- The dialect that an option names. -/
def dialect? (a : Arguments) (name : String) : Option Dialect :=
  (a.value? name).bind Dialect.ofText?

/-- One more option with its value; that of a flag is empty. The version is shown at once. -/
def give (a : Arguments) (option : CommandOption) (value : String) : Except Stop Arguments :=
  if option.long = "version" then .error .version
  else if a.has option.long || !option.value.all (·.accepts value) then .error .usage
  else .ok { a with given := a.given ++ [(option.long, value)], pending := none }

/-- An option by its long name, with the value that is attached to it. -/
def readLong (options : List CommandOption) (a : Arguments) (name : String)
    (attached : Option String) : Except Stop Arguments :=
  match options.find? (·.long = name) with
  | none => .error .usage
  | some option =>
    match option.value, attached with
    | none, none => a.give option ""
    | none, some _ => .error .usage
    | some _, some value => a.give option value
    | some _, none => .ok { a with pending := some option }

/-- Options by their short names. What follows the name of one with a value is its value. -/
def readShort (options : List CommandOption) : Arguments → List Char → Except Stop Arguments
  | a, [] => .ok a
  | a, c :: rest =>
    match options.find? (·.short = some c) with
    | none => .error .usage
    | some option =>
      match option.value, rest with
      | none, rest => (a.give option "").bind (readShort options · rest)
      | some _, [] => .ok { a with pending := some option }
      | some _, '=' :: value => a.give option (String.ofList value)
      | some _, value => a.give option (String.ofList value)

/-- Whether an argument is a word and no option. -/
def isWord (argument : String) : Bool :=
  match argument.toList with
  | ['-'] => true
  | '-' :: _ => false
  | _ => true

/-- Whether an argument is taken as a word here. -/
def takesWord (a : Arguments) (argument : String) : Bool :=
  a.pending.isNone && (a.onlyWords || isWord argument)

/-- One argument. -/
def read (options : List CommandOption) (a : Arguments) (argument : String) :
    Except Stop Arguments :=
  if a.takesWord argument then .ok { a with words := a.words ++ [argument] }
  else
    match a.pending with
    | some option => if isWord argument then a.give option argument else .error .usage
    | none =>
      match argument.toList with
      | ['-', '-'] => .ok { a with onlyWords := true }
      | '-' :: '-' :: long =>
        let name := long.takeWhile (· ≠ '=')
        let attached := match long.drop name.length with
          | _ :: value => some (String.ofList value)
          | [] => none
        a.readLong options (String.ofList name) attached
      | _ :: short => readShort options a short
      | [] => .error .usage

/-- All arguments. No option may be left waiting for its value. -/
def readAll (options : List CommandOption) (arguments : List String) : Except Stop Arguments := do
  let a ← arguments.foldlM (read options) {}
  if a.pending.isSome then throw .usage
  return a

end Arguments

/-! ### Commands -/

/-- What is asked of the command that generates statements. -/
structure GenerateRequest where
  schema : String
  dialect : Option Dialect
  table : Option String
  inserts : Bool
  pretty : Bool
  noIfNotExists : Bool
  noComments : Bool
  engine : Option String
  charset : Option String
  collation : Option String
  schemaName : Option String
  strict : Bool
  json : Bool
  output : Option String

/-- What is asked of the command that writes a query. -/
structure SelectRequest where
  query : String
  dialect : Option Dialect
  against : Option String
  noAliases : Bool
  pretty : Bool

/-- A command to run. -/
inductive Command where
  | generate (request : GenerateRequest)
  | validate (schema : String) (dialect : Option Dialect)
  | transform (schema : String) (target : Dialect) (output : Option String)
  | diff (old new : String)
  | select (request : SelectRequest)
  | types (dialect : Option Dialect)

/-- A command with the file of settings that is asked for. -/
structure Invocation where
  settings : Option String
  command : Command

/-- The options that stand before a command and after it. -/
def commonOptions : List CommandOption :=
  [⟨"config", some 'c', some .path⟩, ⟨"verbose", some 'v', none⟩]

/-- The options of the program. -/
def programOptions : List CommandOption :=
  commonOptions ++ [⟨"version", some 'V', none⟩]

/-- The option for a dialect. -/
def dialectOption : CommandOption := ⟨"dialect", some 'd', some .dialect⟩

/-- The option for a file to write to. -/
def outputOption : CommandOption := ⟨"output", some 'o', some .path⟩

/-- The options of the command that generates statements. -/
def generateOptions : List CommandOption :=
  [ dialectOption, ⟨"table", some 't', some .text⟩, ⟨"inserts", none, none⟩,
    ⟨"pretty", none, none⟩, ⟨"no-if-not-exists", none, none⟩, ⟨"no-comments", none, none⟩,
    ⟨"engine", none, some .text⟩, ⟨"charset", none, some .text⟩, ⟨"collation", none, some .text⟩,
    ⟨"schema", none, some .text⟩, ⟨"strict", none, none⟩, ⟨"json", none, none⟩, outputOption ]

/-- The options of the command that writes a query. -/
def selectOptions : List CommandOption :=
  [ dialectOption, ⟨"against", none, some .path⟩, ⟨"no-aliases", none, none⟩,
    ⟨"pretty", none, none⟩ ]

/-- The options of a command by its name. -/
def optionsOf? : String → Option (List CommandOption)
  | "generate" => some generateOptions
  | "validate" => some [dialectOption]
  | "transform" => some [⟨"to", none, some .dialect⟩, outputOption]
  | "diff" => some []
  | "select" => some selectOptions
  | "types" => some [dialectOption]
  | _ => none

/-- The command that a name, options and words make. -/
def commandOf? (name : String) (a : Arguments) : Option Command :=
  match name, a.words with
  | "generate", [schema] =>
    some <| .generate
      { schema,
        dialect := a.dialect? "dialect",
        table := a.value? "table",
        inserts := a.has "inserts",
        pretty := a.has "pretty",
        noIfNotExists := a.has "no-if-not-exists",
        noComments := a.has "no-comments",
        engine := a.value? "engine",
        charset := a.value? "charset",
        collation := a.value? "collation",
        schemaName := a.value? "schema",
        strict := a.has "strict",
        json := a.has "json",
        output := a.value? "output" }
  | "validate", [schema] => some (.validate schema (a.dialect? "dialect"))
  | "transform", [schema] =>
    (a.dialect? "to").map fun target => .transform schema target (a.value? "output")
  | "diff", [old, new] => some (.diff old new)
  | "select", [query] =>
    some <| .select
      { query,
        dialect := a.dialect? "dialect",
        against := a.value? "against",
        noAliases := a.has "no-aliases",
        pretty := a.has "pretty" }
  | "types", [] => some (.types (a.dialect? "dialect"))
  | _, _ => none

/-- The invocation that a command and the arguments after it make, given the file of settings that
was named before it and the one that the environment names. A file named after the command goes
before one named in front of it, and both before that of the environment, which is looked at only
where the arguments name none. -/
def invocation (name : String) (arguments : List String) (front environment : Option String) :
    Except Stop Invocation := do
  let some options := optionsOf? name | throw .usage
  let a ← Arguments.readAll (commonOptions ++ options) arguments
  if a.words.contains "" then throw .usage
  let some command := commandOf? name a | throw .usage
  let back := a.value? "config"
  if environment = some "" ∧ (front.isNone ∨ back.isNone) then throw .usage
  return ⟨back.or (front.or environment), command⟩

/-- The invocation that arguments make, after some options of the program. -/
def invocationAfter (environment : Option String) :
    Arguments → List String → Except Stop Invocation
  | _, [] => .error .usage
  | a, argument :: rest =>
    if a.takesWord argument then
      if a.onlyWords then .error .usage
      else invocation argument rest (a.value? "config") environment
    else (a.read programOptions argument).bind (invocationAfter environment · rest)

/-- The invocation that arguments make. The environment may name a file of settings. -/
def Invocation.ofArguments (environment : Option String) (arguments : List String) :
    Except Stop Invocation :=
  invocationAfter environment {} arguments

end SchemaCompiler.CommandLine
