/-
**Reading the start of a text.**

A reading takes what it reads from the front of a text and leaves the rest, or it fails and leaves
the text as it was. Here are the readings from which a grammar is put together, and those of blanks,
comments and quoted strings.
-/

import SchemaCompiler.Toml.Basic

namespace SchemaCompiler.Toml

/-- A reading of the start of a text. -/
abbrev Reading := StateT (List Char) Option

namespace Reading

variable {α : Type}

/-- One character of a class. -/
def one (among : Char → Bool) : Reading Char
  | c :: rest => if among c then some (c, rest) else none
  | [] => none

/-- A given character. -/
def mark (wanted : Char) : Reading Unit := do
  let _ ← one (· = wanted)

/-- All characters of a class at the start. -/
def run (among : Char → Bool) : Reading (List Char) :=
  fun text => some (text.span among)

/-- The first character, which stays. -/
def ahead : Reading (Option Char) :=
  fun text => some (text.head?, text)

/-- The end of the text. -/
def ended : Reading Unit
  | [] => some ((), [])
  | _ => none

/-- A reading, or nothing where it fails. -/
def possibly (reading : Reading α) : Reading (Option α) :=
  (some <$> reading) <|> pure none

/-- A reading again and again, at most so many times, until it fails. -/
def repeated (reading : Reading α) : Nat → Reading (List α)
  | 0 => pure []
  | bound + 1 => do
    match ← possibly reading with
    | none => return []
    | some first => return first :: (← repeated reading bound)

/-- A reading, which takes some of the text, again and again until it fails. -/
def many (reading : Reading α) : Reading (List α) :=
  fun text => repeated reading text.length text

/-- A reading at least once, with separators in between. -/
def separated (reading : Reading α) (separator : Reading Unit) : Reading (List α) := do
  let first ← reading
  let others ← many (separator *> reading)
  return first :: others

/-! ### Blanks, ends of lines and comments -/

/-- Whether a character is a blank within a line. -/
def isSpace (c : Char) : Bool :=
  c = ' ' || c = '\t'

/-- Blanks within a line. -/
def spaces : Reading Unit := do
  let _ ← run isSpace

/-- The end of a line. -/
def newline : Reading Unit :=
  mark '\n' <|> (do mark '\r'; mark '\n')

/-- The control characters other than the tab, which stand nowhere. -/
def isControl (c : Char) : Bool :=
  (c.toNat < 0x20 && c ≠ '\t') || c.toNat = 0x7F

/-- A comment up to the end of its line. -/
def comment : Reading Unit := do
  mark '#'
  let _ ← run (!isControl ·)

/-- Blanks, comments and ends of lines. -/
def blanks : Reading Unit := do
  let _ ← many ((do let _ ← one isSpace) <|> newline <|> comment)

/-- What may follow on a line: blanks and a comment. -/
def lineEnd : Reading Unit := do
  spaces
  let _ ← possibly comment
  newline <|> ended

/-! ### Quoted strings -/

/-- The character that a letter after a backslash stands for. -/
def escapedChar? : Char → Option Char
  | 'b' => some '\x08'
  | 't' => some '\t'
  | 'n' => some '\n'
  | 'f' => some '\x0c'
  | 'r' => some '\r'
  | '"' => some '"'
  | '\\' => some '\\'
  | _ => none

/-- The value of a hexadecimal digit. -/
def hexValue? (c : Char) : Option Nat :=
  if c.isDigit then some (c.toNat - '0'.toNat)
  else if 'a' ≤ c ∧ c ≤ 'f' then some (c.toNat - 'a'.toNat + 10)
  else if 'A' ≤ c ∧ c ≤ 'F' then some (c.toNat - 'A'.toNat + 10)
  else none

/-- The character with a code of so many hexadecimal digits. -/
def codePoint (width : Nat) : Reading Char := fun text => do
  let digits ← (text.take width).mapM hexValue?
  let code := digits.foldl (fun n digit => 16 * n + digit) 0
  if digits.length = width ∧ code.isValidChar then some (Char.ofNat code, text.drop width) else none

/-- The character that a backslash and what follows it stand for. -/
def escape : Reading Char := do
  mark '\\'
  match ← one fun _ => true with
  | 'u' => codePoint 4
  | 'U' => codePoint 8
  | c => (escapedChar? c : Option Char)

/-- A character that stands for itself between two quotes of a kind. -/
def plain (quote : Char) : Reading Char :=
  one fun c => !isControl c && c ≠ quote && (c ≠ '\\' || quote = '\'')

/-- A character of a string between two quotes of a kind. Only between double quotes a backslash
escapes. -/
def stringChar (quote : Char) : Reading Char :=
  plain quote <|> if quote = '"' then escape else failure

/-- A string on one line. -/
def shortString (quote : Char) : Reading (List Char) := do
  mark quote
  let text ← many (stringChar quote)
  mark quote
  return text

/-- A backslash at the end of a line, which joins what follows the blanks after it. -/
def joinedLine : Reading (List Char) := do
  mark '\\'
  spaces
  newline
  let _ ← many ((do let _ ← one isSpace) <|> newline)
  return []

/-- One or two quotes within a string of several lines. -/
def innerQuotes (quote : Char) : Reading (List Char) := fun text =>
  let (quotes, rest) := text.span (· = quote)
  if 0 < quotes.length ∧ quotes.length < 3 then some (quotes, rest) else none

/-- The quotes at the end of a string of several lines: three, after up to two that belong to it. -/
def closingQuotes (quote : Char) : Reading (List Char) := fun text =>
  let (quotes, rest) := text.span (· = quote)
  if 3 ≤ quotes.length ∧ quotes.length ≤ 5 then some (quotes.drop 3, rest) else none

/-- A part of a string of several lines. -/
def longPart (quote : Char) : Reading (List Char) :=
  (do newline; return ['\n']) <|> ((fun c => [c]) <$> stringChar quote) <|>
    (if quote = '"' then joinedLine else failure) <|> innerQuotes quote

/-- A string of several lines; a line break right after the opening quotes does not count. -/
def longString (quote : Char) : Reading (List Char) := do
  mark quote
  mark quote
  mark quote
  let _ ← possibly newline
  let parts ← many (longPart quote)
  let last ← closingQuotes quote
  return parts.flatten ++ last

/-- A string. -/
def string (quote : Char) : Reading String := do
  let text ← longString quote <|> shortString quote
  return String.ofList text

end Reading

end SchemaCompiler.Toml
