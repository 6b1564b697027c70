/-
**Access to files.**

The commands read and write files through three operations, which a program carries out on the
files of its system, and a `Workspace` on files that are held as data.
-/

namespace SchemaCompiler.CommandLine

/-- Why a file cannot be read or written. -/
inductive FileError where
  | notFound
  | notDirectory
  | isDirectory
  | nameTooLong
  | notText
  | other (reason : String)
  deriving DecidableEq

/-- The message of a file error. -/
def FileError.message : FileError → String
  | .notFound => "No such file or directory (os error 2)"
  | .notDirectory => "Not a directory (os error 20)"
  | .isDirectory => "Is a directory (os error 21)"
  | .nameTooLong => "File name too long (os error 36)"
  | .notText => "stream did not contain valid UTF-8"
  | .other reason => reason

/-- What stands at a path. -/
inductive EntryKind where
  | file
  | directory
  deriving DecidableEq, Repr

/-- The operations on files. -/
structure FileAccess (m : Type → Type) where
  kind : String → m (Option EntryKind)
  read : String → m (Except FileError String)
  write : String → String → m (Except FileError Unit)

end SchemaCompiler.CommandLine
