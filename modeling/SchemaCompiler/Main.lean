/-
**The program.**

The commands run on the files of the system. The settings of the user lie in the directory for
settings, which the environment may name. A run that fails ends with code one, and arguments that
make no command with code two.
-/

import SchemaCompiler.CommandLine.Run

namespace SchemaCompiler.CommandLine

/-! ### The files of the system -/

/-- Why the system refuses to read or write a file. -/
def FileError.ofSystem : IO.Error → FileError
  | .noFileOrDirectory _ _ _ => .notFound
  | .inappropriateType _ code _ => if code = 21 then .isDirectory else .notDirectory
  | .invalidArgument _ 36 _ => .nameTooLong
  | .permissionDenied _ _ _ => .other "Permission denied (os error 13)"
  | .userError _ => .notText
  | cause => .other cause.toString

/-- The text of a file of the system. -/
def readSystemFile (path : String) : IO (Except FileError String) := do
  return (← (IO.FS.readFile path).toBaseIO).mapError .ofSystem

/-- What stands at a path, as reading it shows. -/
def systemKind (path : String) : IO (Option EntryKind) := do
  match ← readSystemFile path with
  | .error .notFound => return none
  | .error .notDirectory => return none
  | .error .nameTooLong => return none
  | .error .isDirectory => return some .directory
  | _ => return some .file

/-- The files of the system. -/
def systemFiles : FileAccess IO where
  kind := systemKind
  read := readSystemFile
  write path text := do
    return (← (IO.FS.writeFile path text).toBaseIO).mapError .ofSystem

/-- The file of the user's settings. Only an absolute path replaces the usual directory. -/
def userSettings? : IO (Option String) := do
  let place := "/schemaforge/config.toml"
  match ← IO.getEnv "XDG_CONFIG_HOME", ← IO.getEnv "HOME" with
  | some directory, home =>
    if directory.startsWith "/" then return some (directory ++ place)
    else return home.map (· ++ "/.config" ++ place)
  | none, home => return home.map (· ++ "/.config" ++ place)

end SchemaCompiler.CommandLine

open SchemaCompiler.CommandLine in
/-- Run the command that the arguments make. -/
def main (arguments : List String) : IO UInt32 := do
  match Invocation.ofArguments (← IO.getEnv "SCHEMAFORGE_CONFIG") arguments with
  | .error .version =>
    IO.println versionText
    return 0
  | .error .usage =>
    IO.eprintln "Usage: schemaforge [OPTIONS] <COMMAND>"
    return 2
  | .ok invocation =>
    let outcome ← run ⟨systemFiles, ← userSettings?⟩ invocation
    IO.eprint outcome.messages
    IO.print outcome.output
    return if outcome.succeeded then 0 else 1
