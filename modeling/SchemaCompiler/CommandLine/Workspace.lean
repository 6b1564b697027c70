/-
**Files that are held as data.**

A workspace is a directory: a list of files with their paths, the names of the directories on the
way and then that of the file. Every beginning of such a path is a directory. A path is followed
name by name; outside of the workspace nothing is known but the directories on the way up.
-/

import SchemaCompiler.CommandLine.Files

namespace SchemaCompiler.CommandLine

/-- A directory with files. -/
structure Workspace where
  files : List (List String × String) := []

/-- What a path leads to. -/
inductive Place where
  | file (path : List String) (text : String)
  | directory (path : List String)
  | missing (path : List String)

namespace Workspace

/-- The names in a written path. -/
def names (path : String) : List String :=
  (path.toList.splitOn '/').map String.ofList

/-- Whether a name stands for the directory in which it is looked up. -/
def isHere (name : String) : Bool :=
  name == "" || name == "."

/-- What stands at the end of names. -/
def at? (w : Workspace) (path : List String) : Option Place :=
  match w.files.lookup path with
  | some text => some (.file path text)
  | none =>
    if path = [] ∨ w.files.any (fun file => path.isPrefixOf file.1) then some (.directory path)
    else none

/-- What a path is followed for. -/
inductive Access where
  | reading
  | writing
  deriving DecidableEq

/-- The greatest number of bytes in a name. -/
def nameLimit : Nat := 255

/-- The number of bytes that a path must stay below. -/
def pathLimit : Nat := 4096

/-- Why a name cannot be looked up when the given names are left after it. A slash behind the last
name asks for a directory, and no directory is written as a file. -/
def refusal? (access : Access) (name : String) (rest : List String) : Option FileError :=
  if access = .writing ∧ rest ≠ [] ∧ rest.all (· == "") then some .isDirectory
  else if nameLimit < name.utf8ByteSize then some .nameTooLong
  else none

/-- Follow names outside of the workspace, where only directories on the way up are known. -/
def followOutside (access : Access) : List String → Except FileError Place
  | [] => .ok (.directory [])
  | name :: rest =>
    if isHere name || name == ".." then followOutside access rest
    else .error ((refusal? access name rest).getD .notFound)

/-- Follow names from a directory. A file leads nowhere, and only the last name may be missing. -/
def follow (w : Workspace) (access : Access) : List String → List String → Except FileError Place
  | path, [] => .ok (.directory path)
  | path, name :: rest =>
    if isHere name then w.follow access path rest
    else if name = ".." then
      if path = [] then followOutside access rest else w.follow access path.dropLast rest
    else match refusal? access name rest with
      | some cause => .error cause
      | none =>
        match w.at? (path ++ [name]), rest with
        | some (.directory path), rest => w.follow access path rest
        | some place, [] => .ok place
        | some _, _ :: _ => .error .notDirectory
        | none, [] => .ok (.missing (path ++ [name]))
        | none, _ :: _ => .error .notFound

/-- What a written path leads to. -/
def place (w : Workspace) (access : Access) (path : String) : Except FileError Place :=
  if path = "" then .error .notFound
  else if pathLimit ≤ path.utf8ByteSize then .error .nameTooLong
  else if path.startsWith "/" then followOutside access (names path)
  else w.follow access [] (names path)

/-- What stands at a written path. -/
def kind (w : Workspace) (path : String) : Option EntryKind :=
  match w.place .reading path with
  | .ok (.file _ _) => some .file
  | .ok (.directory _) => some .directory
  | _ => none

/-- The text of a file. -/
def read (w : Workspace) (path : String) : Except FileError String :=
  match w.place .reading path with
  | .ok (.file _ text) => .ok text
  | .ok (.directory _) => .error .isDirectory
  | .ok (.missing _) => .error .notFound
  | .error cause => .error cause

/-- The workspace with a file written. -/
def write (w : Workspace) (path text : String) : Except FileError Workspace :=
  match w.place .writing path with
  | .ok (.file path _) =>
    .ok ⟨w.files.map fun file => if file.1 = path then (path, text) else file⟩
  | .ok (.missing path) => .ok ⟨w.files ++ [(path, text)]⟩
  | .ok (.directory _) => .error .isDirectory
  | .error cause => .error cause

/-- The workspace of files with their written paths. -/
def ofFiles (files : List (String × String)) : Workspace :=
  ⟨files.map fun (path, text) => ((names path).filter (!isHere ·), text)⟩

/-- The operations on a workspace. -/
def access : FileAccess (StateM Workspace) where
  kind path := return (← get).kind path
  read path := return (← get).read path
  write path text := do
    match (← get).write path text with
    | .ok w =>
      set w
      return .ok ()
    | .error cause => return .error cause

end Workspace

end SchemaCompiler.CommandLine
