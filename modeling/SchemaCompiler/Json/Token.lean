/-
**The tokens of JSON texts.**

A text is cut into tokens by a machine that reads one character at a time. A string or a number is
a token as soon as it has the right form, and then it need not have a value: the codes of a string
may be halves of characters that do not fit together, and a number may be out of range.
-/

import SchemaCompiler.Json.Number

namespace SchemaCompiler.Json

/-- The tokens of a JSON text, with the values of strings and of other scalars that have one. -/
inductive Token where
  | openArray
  | closeArray
  | openObject
  | closeObject
  | colon
  | comma
  | text (value : Option String)
  | scalar (value : Option Json)

/-! ### The parts of a string -/

/-- A part of a string: a character, or a code of four hexadecimal digits. -/
inductive TextPart where
  | char (value : Char)
  | code (value : Nat)

/-- Whether a code is the first half of a character that needs two. -/
def isLeading (code : Nat) : Bool :=
  0xD800 ≤ code && code < 0xDC00

/-- Whether a code is the second half of a character that needs two. -/
def isTrailing (code : Nat) : Bool :=
  0xDC00 ≤ code && code < 0xE000

/-- The character of two codes. -/
def charOfHalves (leading trailing : Nat) : Char :=
  Char.ofNat (0x10000 + (leading - 0xD800) * 0x400 + (trailing - 0xDC00))

/-- The characters of parts in reverse, behind some characters. The halves of a character must
stand together and in order. -/
def charsOfParts? (read : List Char) : List TextPart → Option (List Char)
  | [] => some read
  | .char c :: rest => charsOfParts? (c :: read) rest
  | .code first :: rest =>
    if isLeading first then
      match rest with
      | .code second :: rest =>
        if isTrailing second then charsOfParts? (charOfHalves first second :: read) rest else none
      | _ => none
    else if isTrailing first then none
    else charsOfParts? (Char.ofNat first :: read) rest

/-- The string of parts. -/
def stringOfParts? (parts : List TextPart) : Option String :=
  (charsOfParts? [] parts).map fun read => String.ofList read.reverse

/-! ### Cutting into tokens -/

/-- What the machine has read of the current token, its parts in reverse. -/
inductive Lexeme where
  | between
  | word (read : List Char)
  | text (read : List TextPart)
  | escape (read : List TextPart)
  | code (read : List TextPart) (digits : List Char)

/-- The token of a word: a name of a constant or a number. -/
def wordToken? (word : List Char) : Option Token :=
  if word = "null".toList then some (.scalar (some .null))
  else if word = "true".toList then some (.scalar (some (.bool true)))
  else if word = "false".toList then some (.scalar (some (.bool false)))
  else (Number.written? word).map fun number => .scalar (number.value?.map .number)

/-- The token of a punctuation mark. -/
def markToken? : Char → Option Token
  | '[' => some .openArray
  | ']' => some .closeArray
  | '\x7b' => some .openObject
  | '\x7d' => some .closeObject
  | ':' => some .colon
  | ',' => some .comma
  | _ => none

/-- The characters between tokens. -/
def isSpace (c : Char) : Bool :=
  c = ' ' || c = '\n' || c = '\t' || c = '\r'

/-- A character outside of tokens starts one, is one or separates two. -/
def startToken? (c : Char) : Option (List Token × Lexeme) :=
  if isSpace c then some ([], .between)
  else if c = '"' then some ([], .text [])
  else match markToken? c with
    | some token => some ([token], .between)
    | none => some ([], .word [c])

/-- The characters of words. -/
def inWord (c : Char) : Bool :=
  c.isAlphanum || c = '+' || c = '-' || c = '.'

/-- The character of an escape of one letter. -/
def escapedLetter? : Char → Option Char
  | '"' => some '"'
  | '\\' => some '\\'
  | '/' => some '/'
  | 'b' => some '\x08'
  | 'f' => some '\x0c'
  | 'n' => some '\n'
  | 'r' => some '\r'
  | 't' => some '\t'
  | _ => none

/-- The value of a hexadecimal digit. -/
def hexValue? (c : Char) : Option Nat :=
  if c.isDigit then some (c.toNat - '0'.toNat)
  else if 'a' ≤ c ∧ c ≤ 'f' then some (c.toNat - 'a'.toNat + 10)
  else if 'A' ≤ c ∧ c ≤ 'F' then some (c.toNat - 'A'.toNat + 10)
  else none

/-- The value of hexadecimal digits. -/
def hexCode? (digits : List Char) : Option Nat :=
  digits.foldlM (fun code c => (hexValue? c).map (16 * code + ·)) 0

/-- One character: the tokens that it ends, and what has been read of the next one. -/
def Lexeme.step? : Lexeme → Char → Option (List Token × Lexeme)
  | .between, c => startToken? c
  | .word read, c =>
    if inWord c then some ([], .word (c :: read))
    else
      (wordToken? read.reverse).bind fun token =>
        (startToken? c).map fun (tokens, next) => (token :: tokens, next)
  | .text read, c =>
    if c = '"' then some ([.text (stringOfParts? read.reverse)], .between)
    else if c = '\\' then some ([], .escape read)
    else if c.toNat < 0x20 then none
    else some ([], .text (.char c :: read))
  | .escape read, c =>
    if c = 'u' then some ([], .code read [])
    else (escapedLetter? c).map fun letter => ([], .text (.char letter :: read))
  | .code read digits, c =>
    if digits.length < 3 then some ([], .code read (digits ++ [c]))
    else (hexCode? (digits ++ [c])).map fun code => ([], .text (.code code :: read))

/-- The tokens left at the end of a text. -/
def Lexeme.finish? : Lexeme → Option (List Token)
  | .between => some []
  | .word read => (wordToken? read.reverse).map ([·])
  | _ => none

/-- A cut: the tokens so far, in reverse, and what has been read of the next one. -/
structure Cut where
  tokens : List Token
  lexeme : Lexeme

/-- One character of a text. -/
def Cut.step? (cut : Cut) (c : Char) : Option Cut :=
  (cut.lexeme.step? c).map fun (tokens, next) => ⟨tokens.reverse ++ cut.tokens, next⟩

/-- The tokens of a text. -/
def tokens? (text : List Char) : Option (List Token) :=
  (text.foldlM Cut.step? ⟨[], .between⟩).bind fun cut =>
    cut.lexeme.finish?.map fun last => (last.reverse ++ cut.tokens).reverse

end SchemaCompiler.Json
