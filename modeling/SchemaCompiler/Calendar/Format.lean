/-
**Formats of dates and times.**

A format is a list of items that a text is read by, from front to back and to its end. A number
item passes over blanks, then takes digits up to its width; a year may instead have a sign and any
number of digits. A strict format has numbers of an exact width and passes over no blanks.
-/

import SchemaCompiler.Calendar.Basic
import SchemaCompiler.Text.Blank

namespace SchemaCompiler.Calendar

/-- The parts of a date and time. -/
structure Moment where
  year : Int := 0
  month : Nat := 1
  day : Nat := 1
  hour : Nat := 0
  minute : Nat := 0
  second : Nat := 0

/-- Whether the parts make a date and a time of day. -/
def Moment.isValid (m : Moment) : Bool :=
  isDate m.year m.month m.day && isTimeOfDay m.hour m.minute m.second

/-- The items of a format. -/
inductive Item where
  | year
  | month
  | day
  | hour
  | minute
  | second
  | fraction
  | mark (c : Char)
  | blanks

/-- The value of digits. -/
def digitsValue (digits : List Char) : Nat :=
  digits.foldl (fun n c => 10 * n + (c.toNat - '0'.toNat)) 0

/-- At least one digit, up to a width, and the rest. -/
def number? (width : Nat) (text : List Char) : Option (Nat × List Char) :=
  let digits := (text.take width).takeWhile Char.isDigit
  if digits = [] then none else some (digitsValue digits, text.drop digits.length)

/-- Any number of digits whose value fits 63 bits. -/
def longNumber? (text : List Char) : Option (Nat × List Char) :=
  let digits := text.takeWhile Char.isDigit
  if digits = [] ∨ Nat.pow 2 63 ≤ digitsValue digits then none
  else some (digitsValue digits, text.drop digits.length)

/-- A year: four digits at most, or a sign and digits. -/
def year? : List Char → Option (Int × List Char)
  | '-' :: rest => (longNumber? rest).map fun (n, rest) => (-(n : Int), rest)
  | '+' :: rest => (longNumber? rest).map fun (n, rest) => ((n : Int), rest)
  | text => (number? 4 text).map fun (n, rest) => ((n : Int), rest)

/-- A fraction of a second: nothing, or a point and digits. -/
def fraction? : List Char → Option (List Char)
  | '.' :: rest =>
    let digits := rest.takeWhile Char.isDigit
    if digits = [] then none else some (rest.drop digits.length)
  | text => some text

/-- Read one item. -/
def Item.read? (item : Item) (m : Moment) (text : List Char) : Option (Moment × List Char) :=
  let two := number? 2 (Text.dropBlanks text)
  match item with
  | .year => (year? (Text.dropBlanks text)).map fun (n, rest) => ({ m with year := n }, rest)
  | .month => two.map fun (n, rest) => ({ m with month := n }, rest)
  | .day => two.map fun (n, rest) => ({ m with day := n }, rest)
  | .hour => two.map fun (n, rest) => ({ m with hour := n }, rest)
  | .minute => two.map fun (n, rest) => ({ m with minute := n }, rest)
  | .second => two.map fun (n, rest) => ({ m with second := n }, rest)
  | .fraction => (fraction? text).map fun rest => (m, rest)
  | .mark c =>
    match text with
    | first :: rest => if first = c then some (m, rest) else none
    | [] => none
  | .blanks => some (m, Text.dropBlanks text)

/-- Read the items of a format one after the other. -/
def readItems? : List Item → Moment → List Char → Option (Moment × List Char)
  | [], m, text => some (m, text)
  | item :: items, m, text => (item.read? m text).bind fun (m, rest) => readItems? items m rest

/-- Whether the whole text has a format and its parts make a date and a time of day. -/
def hasFormat (format : List Item) (text : String) : Bool :=
  match readItems? format {} text.toList with
  | some (m, []) => m.isValid
  | _ => false

/-- `2024-02-29` -/
def dateFormat : List Item := [.year, .mark '-', .month, .mark '-', .day]

/-- `12:30` -/
def minuteFormat : List Item := [.hour, .mark ':', .minute]

/-- `12:30:00` -/
def secondFormat : List Item := minuteFormat ++ [.mark ':', .second]

/-- `12:30:00.5` -/
def fractionFormat : List Item := secondFormat ++ [.fraction]

/-- The formats of a time of day. -/
def timeFormats : List (List Item) := [fractionFormat, secondFormat, minuteFormat]

/-- The formats of a date and time without a zone. -/
def dateTimeFormats : List (List Item) :=
  [ dateFormat ++ [.blanks] ++ fractionFormat,
    dateFormat ++ [.blanks] ++ secondFormat,
    dateFormat ++ [.mark 'T'] ++ fractionFormat,
    dateFormat ++ [.mark 'T'] ++ secondFormat,
    dateFormat ++ [.blanks] ++ minuteFormat ]

/-! ### Date and time with a zone -/

/-- A number of exactly so many digits. -/
def exactly? (width : Nat) (text : List Char) : Option (Nat × List Char) :=
  let digits := text.take width
  if digits.length = width ∧ digits.all Char.isDigit then
    some (digitsValue digits, text.drop width)
  else none

/-- A given character. -/
def expect? (wanted : Char → Bool) : List Char → Option (List Char)
  | c :: rest => if wanted c then some rest else none
  | [] => none

/-- The offset of a zone: `Z`, or a sign with hours and minutes. -/
def offset? : List Char → Option (List Char)
  | 'Z' :: rest => some rest
  | 'z' :: rest => some rest
  | text => do
    let text ← expect? (fun c => c = '+' || c = '-' || c = '\u2212') text
    let (hours, text) ← exactly? 2 text
    let text ← expect? (· = ':') text
    let (minutes, text) ← exactly? 2 text
    if hours ≤ 23 ∧ minutes ≤ 59 then some text else none

/-- A date in the strict format, and the rest. -/
def strictDate? (text : List Char) : Option (Moment × List Char) := do
  let (year, text) ← exactly? 4 text
  let text ← expect? (· = '-') text
  let (month, text) ← exactly? 2 text
  let text ← expect? (· = '-') text
  let (day, text) ← exactly? 2 text
  some ({ year, month, day }, text)

/-- A time of day in the strict format on a given day, and the rest. -/
def strictTime? (m : Moment) (text : List Char) : Option (Moment × List Char) := do
  let (hour, text) ← exactly? 2 text
  let text ← expect? (· = ':') text
  let (minute, text) ← exactly? 2 text
  let text ← expect? (· = ':') text
  let (second, text) ← exactly? 2 text
  let text ← fraction? text
  some ({ m with hour, minute, second }, text)

/-- What may stand between a date and a time of day. -/
def isDateEnd (c : Char) : Bool :=
  c = 'T' || c = 't' || c = ' '

/-- The date, the time of day and the zone of a text in the strict format, and the rest. -/
def zoned? (text : List Char) : Option (Moment × List Char) := do
  let (day, text) ← strictDate? text
  let text ← expect? isDateEnd text
  let (m, text) ← strictTime? day text
  let text ← offset? text
  some (m, text)

/-- Whether a text is a date and time with a zone. -/
def isZoned (text : String) : Bool :=
  match zoned? text.toList with
  | some (m, []) => m.isValid
  | _ => false

end SchemaCompiler.Calendar
