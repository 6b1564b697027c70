/-
**TOML documents.**

A document is a list of statements, at most one a line: headers of tables and of arrays of tables,
and entries for the table under the last header. The statements are read first and then carried
out one after the other; `ofText?` does both.
-/

import SchemaCompiler.Toml.Reading
import SchemaCompiler.Toml.Scalar

namespace SchemaCompiler.Toml

/-- How deep values may be nested, and how many parts a key may have. -/
def nestingLimit : Nat := 79

namespace Reading

/-! ### Keys -/

/-- The characters of bare keys. -/
def inBareKey (c : Char) : Bool :=
  c.isAlphanum || c = '_' || c = '-'

/-- One part of a key. -/
def keyPart : Reading String := do
  match ← ahead with
  | some '"' => String.ofList <$> shortString '"'
  | some '\'' => String.ofList <$> shortString '\''
  | _ =>
    let name ← run inBareKey
    if name = [] then failure else return String.ofList name

/-- A key of one or more parts with points in between. -/
def key : Reading (List String) := do
  let parts ← separated (do spaces; let part ← keyPart; spaces; return part) (mark '.')
  if parts.length ≤ nestingLimit then return parts else failure

/-! ### Values -/

/-- The words of a number, a truth value, a date or a time. -/
def scalar : Reading Toml := do
  let word ← run inWord
  let time? ← if isDate word then possibly (do mark ' '; run1 inWord) else pure none
  let word := match time? with
    | some time => word ++ ' ' :: time
    | none => word
  (scalar? word : Option Toml)
where
  /-- At least one character of a class. -/
  run1 (among : Char → Bool) : Reading (List Char) := do
    let text ← run among
    if text = [] then failure else return text

/-- The entries of a table from keys and values. -/
def tableOf? (entries : List (List String × Toml)) : Option Entries :=
  entries.foldlM
    (fun table (key, value) => addAt? key.dropLast (key.getLastD "") value .header table) []

/-- An array of values. -/
def array (value : Reading Toml) : Reading Toml := do
  mark '['
  let item : Reading Toml := do blanks; let item ← value; blanks; return item
  let items ← possibly (separated item (mark ','))
  if items.isSome then let _ ← possibly (mark ',')
  blanks
  mark ']'
  return .array (items.getD [])

/-- A key with a value. -/
def keyValue (value : Reading Toml) : Reading (List String × Toml) := do
  let path ← key
  mark '='
  spaces
  let value ← value
  return (path, value)

/-- A table written inline, on one line. -/
def inlineTable (value : Reading Toml) : Reading Toml := do
  mark '\x7b'
  let entry : Reading (List String × Toml) := do
    let entry ← keyValue value
    spaces
    return entry
  let entries ← possibly (separated entry (mark ','))
  spaces
  mark '\x7d'
  .table .inline <$> (tableOf? (entries.getD []) : Option Entries)

/-- A value in which no other is nested. -/
def atom : Reading Toml := do
  match ← ahead with
  | some '"' => .string <$> string '"'
  | some '\'' => .string <$> string '\''
  | _ => scalar

/-- A value in which others are nested up to a depth. -/
def value : Nat → Reading Toml
  | 0 => atom
  | depth + 1 => array (value depth) <|> inlineTable (value depth) <|> atom

end Reading

/-! ### Statements -/

/-- A statement of a document. -/
inductive Statement where
  | header (path : List String)
  | arrayHeader (path : List String)
  | entry (path : List String) (value : Toml)

namespace Reading

/-- The header of a table. -/
def header : Reading Statement := do
  mark '['
  let path ← key
  mark ']'
  return .header path

/-- The header of one more table of an array of tables. -/
def arrayHeader : Reading Statement := do
  mark '['
  mark '['
  let path ← key
  mark ']'
  mark ']'
  return .arrayHeader path

/-- An entry. -/
def entry : Reading Statement := do
  let (path, value) ← keyValue (value nestingLimit)
  return .entry path value

/-- A line with its statement, if there is one. -/
def line : Reading (Option Statement) := do
  match ← ahead with
  | none => failure
  | some _ =>
    spaces
    let statement ← possibly (arrayHeader <|> header <|> entry)
    lineEnd
    return statement

/-- The statements of a document. -/
def document : Reading (List Statement) := do
  let _ ← possibly (mark '\ufeff')
  let lines ← many line
  ended
  return lines.filterMap fun statement => statement

end Reading

/-- A document as far as it has been carried out: its entries, and the path of the last header. -/
structure Progress where
  entries : Entries
  path : List String

/-- Carry out a statement. -/
def Progress.step? (p : Progress) (statement : Statement) : Option Progress :=
  match statement with
  | .header path =>
    (within? false path.dropLast (fun _ => openTable? (path.getLastD "")) .header p.entries).map
      (⟨·, path⟩)
  | .arrayHeader path =>
    (within? false path.dropLast (fun _ => openArrayTable? (path.getLastD "")) .header
      p.entries).map (⟨·, path⟩)
  | .entry path value =>
    (within? false p.path (addAt? path.dropLast (path.getLastD "") value) .header p.entries).map
      (⟨·, p.path⟩)

/-- The entries of a document. -/
def ofText? (text : String) : Option Entries := do
  let (statements, _) ← Reading.document text.toList
  let progress ← statements.foldlM Progress.step? ⟨[], []⟩
  return progress.entries

end SchemaCompiler.Toml
