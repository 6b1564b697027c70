/-
**Literals.**

The grammars of the texts that users write for values: numbers, truth values, dates and times,
quoted texts, function names and expressions, and which of them may be the default of a column.

A number is read greedily from the front: an optional sign, digits, a fraction, an exponent, and
then nothing more.
-/

import SchemaCompiler.Calendar.Format
import SchemaCompiler.DataType

namespace SchemaCompiler.Literal

/-! ### Numbers -/

/-- A text without its sign, if it has one. -/
def dropSign : List Char → List Char
  | '+' :: rest => rest
  | '-' :: rest => rest
  | text => text

/-- A text without the digits at its start. -/
def dropDigits (text : List Char) : List Char :=
  text.dropWhile Char.isDigit

/-- Whether a text starts with a digit. -/
def startsWithDigit : List Char → Bool
  | c :: _ => c.isDigit
  | [] => false

/-- Whether a text is digits, at least one, and nothing more. -/
def isDigits (text : List Char) : Bool :=
  startsWithDigit text && (dropDigits text).isEmpty

/-- Whether a text is a sign, if any, and digits. -/
def isSignedDigits (text : List Char) : Bool :=
  isDigits (dropSign text)

/-- Whether a text is nothing or an exponent. -/
def isExponent : List Char → Bool
  | [] => true
  | c :: rest => (c = 'e' || c = 'E') && isSignedDigits rest

/-- What follows the digits of a number: a point with digits, if any, and an exponent, if any. -/
def isFraction : List Char → Bool
  | '.' :: rest => isExponent (dropDigits rest)
  | rest => isExponent rest

/-- Whether a text is a number without a sign. -/
def isUnsigned : List Char → Bool
  | '.' :: rest => startsWithDigit rest && isExponent (dropDigits rest)
  | text => startsWithDigit text && isFraction (dropDigits text)

/-- Whether a text is a whole number: `-12`, `+7`, `0`. -/
def isInteger (text : String) : Bool :=
  isSignedDigits text.toList

/-- Whether a text is a decimal number: `3.14`, `-0.5`, `.5`, `10`, `1e6`. -/
def isDecimal (text : String) : Bool :=
  isUnsigned (dropSign text.toList)

/-- Whether the whole part of a number is padded with zeros, as in `007` and `-01.5`. Such a text
reads as a code rather than as a number. -/
def hasLeadingZero (text : String) : Bool :=
  match (Text.trimmed text.toList).dropWhile fun c => c = '+' || c = '-' with
  | '0' :: rest => startsWithDigit rest
  | _ => false

/-! ### Truth values, quoted texts, functions and expressions -/

/-- The truth value that a text spells. -/
def bool? (text : String) : Option Bool :=
  let word := Text.lowerAscii (Text.trim text)
  if ["true", "1", "t", "yes", "y", "on"].contains word then some true
  else if ["false", "0", "f", "no", "n", "off"].contains word then some false
  else none

/-- Every pair of quotes read as one, from the front. -/
def halveQuotes : List Char → List Char
  | '\'' :: '\'' :: rest => '\'' :: halveQuotes rest
  | c :: rest => c :: halveQuotes rest
  | [] => []

/-- The value of a text: what stands between single quotes when the trimmed text has them at both
ends, with doubled quotes read as one, and the trimmed text otherwise. -/
def unquote (text : String) : String :=
  String.ofList <|
    match Text.trimmed text.toList with
    | '\'' :: rest =>
      if rest.getLast? = some '\'' then halveQuotes rest.dropLast else '\'' :: rest
    | plain => plain

/-- The functions that every dialect can express as a default. -/
def functions : List String :=
  [ "CURRENT_TIMESTAMP", "CURRENT_TIMESTAMP()", "NOW()", "LOCALTIMESTAMP", "CURRENT_DATE",
    "CURRENT_TIME", "UUID()", "GEN_RANDOM_UUID()" ]

/-- The function that a text names, in any case. -/
def function? (text : String) : Option String :=
  let name := Text.upperAscii (Text.trim text)
  functions.find? (· == name)

/-- Whether a text is an expression in parentheses, which is passed on as it is. -/
def isExpression (text : String) : Bool :=
  let trimmed := Text.trimmed text.toList
  2 < trimmed.length && trimmed.head? == some '(' && trimmed.getLast? == some ')'

/-- Whether a text is the null literal. -/
def isNull (text : String) : Bool :=
  Text.sameName text "null"

/-! ### Dates and times -/

/-- Whether a text is a date. -/
def isDate (text : String) : Bool :=
  Calendar.hasFormat Calendar.dateFormat text

/-- Whether a text is a time of day. -/
def isTime (text : String) : Bool :=
  Calendar.timeFormats.any (Calendar.hasFormat · text)

/-- Whether a text is a date and time, or a date. -/
def isDateTime (text : String) : Bool :=
  Calendar.dateTimeFormats.any (Calendar.hasFormat · text) || Calendar.isZoned text || isDate text

/-! ### Defaults -/

/-- Whether a value is of a temporal type. -/
def isTemporal (t : DataType) (value : String) : Bool :=
  match t with
  | .date => isDate value
  | .time => isTime value
  | .year => value.utf8ByteSize = 4 && isInteger value
  | .interval => value != ""
  | _ => isDateTime value

/-- Whether a text may be the default of a column of a type. -/
def isValidDefault (t : DataType) (text : String) : Bool :=
  isNull (Text.trim text) || isExpression text ||
    match t.category with
    | .numeric => if t.isInteger then isInteger (unquote text) else isDecimal (unquote text)
    | .boolean => (bool? (unquote text)).isSome
    | .temporal => (function? text).isSome || isTemporal t (unquote text)
    | .string | .binary | .other => true

end SchemaCompiler.Literal
