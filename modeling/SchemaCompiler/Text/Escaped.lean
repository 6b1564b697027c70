/-
**Texts inside messages.**

A text that a message shows between double quotes has its quotes, backslashes and common controls
escaped by a backslash, and every other character that does not show replaced by its code.
-/

import SchemaCompiler.Text.Case
import SchemaCompiler.Text.PrintableTable

namespace SchemaCompiler.Text

/-- The code of a character in lower-case hexadecimal, in the form `\u{…}`. -/
def codeEscape (c : Char) : List Char :=
  "\\u\x7b".toList ++ Nat.toDigits 16 c.toNat ++ "\x7d".toList

/-- One character of a text between double quotes. -/
def escapeChar (c : Char) : List Char :=
  if c = '\\' || c = '"' then ['\\', c]
  else if c = '\n' then ['\\', 'n']
  else if c = '\r' then ['\\', 'r']
  else if c = '\t' then ['\\', 't']
  else if c.toNat = 0 then ['\\', '0']
  else if 0x20 ≤ c.toNat && c.toNat < 0x7F then [c]
  else if inRanges extendingRanges c || inRanges unprintableRanges c then codeEscape c
  else [c]

/-- A text between double quotes, with everything that does not show escaped. -/
def escaped (text : String) : String :=
  "\"" ++ String.ofList (text.toList.flatMap escapeChar) ++ "\""

end SchemaCompiler.Text
