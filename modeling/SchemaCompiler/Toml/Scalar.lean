/-
**TOML numbers, truth values, dates and times.**

What stands for one of these is a word without blanks, except that a blank may stand between a date
and a time of day. In a number every underscore stands between two digits.
-/

import SchemaCompiler.Binary64.Basic
import SchemaCompiler.Calendar.Format
import SchemaCompiler.Toml.Basic

namespace SchemaCompiler.Toml

/-- The characters of such words. -/
def inWord (c : Char) : Bool :=
  c.isAlphanum || c = '_' || c = '+' || c = '-' || c = '.' || c = ':'

/-! ### Digits -/

/-- The value of a digit in a base. -/
def digit? (base : Nat) (c : Char) : Option Nat :=
  let value :=
    if c.isDigit then c.toNat - '0'.toNat
    else if 'a' ≤ c ∧ c ≤ 'f' then c.toNat - 'a'.toNat + 10
    else if 'A' ≤ c ∧ c ≤ 'F' then c.toNat - 'A'.toNat + 10
    else base
  if value < base then some value else none

/-- The value of digits after a value, with single underscores before some of them. -/
def moreDigits? (base : Nat) : Nat → List Char → Option Nat
  | value, [] => some value
  | value, '_' :: c :: rest =>
    (digit? base c).bind fun digit => moreDigits? base (base * value + digit) rest
  | value, c :: rest =>
    (digit? base c).bind fun digit => moreDigits? base (base * value + digit) rest

/-- The value of digits, at least one. -/
def digits? (base : Nat) : List Char → Option Nat
  | c :: rest => (digit? base c).bind fun digit => moreDigits? base digit rest
  | [] => none

/-- The value of the digits of a decimal whole number, which starts with no zero but as zero. -/
def whole? : List Char → Option Nat
  | ['0'] => some 0
  | '0' :: _ => none
  | text => digits? 10 text

/-- A sign, if there is one, and the rest. -/
def signed : List Char → Bool × List Char
  | '-' :: rest => (true, rest)
  | '+' :: rest => (false, rest)
  | rest => (false, rest)

/-! ### Numbers -/

/-- An integer of 64 bits. -/
def fitting? (value : Int) : Option Int :=
  let bound : Int := Int.ofNat (Nat.pow 2 63)
  if -bound ≤ value ∧ value < bound then some value else none

/-- An integer: decimal with a sign, or in another base without. -/
def integer? (word : List Char) : Option Int :=
  match word with
  | '0' :: 'x' :: digits => (digits? 16 digits).bind fun n => fitting? n
  | '0' :: 'o' :: digits => (digits? 8 digits).bind fun n => fitting? n
  | '0' :: 'b' :: digits => (digits? 2 digits).bind fun n => fitting? n
  | word =>
    let (negative, digits) := signed word
    (whole? digits).bind fun n => fitting? (if negative then -(n : Int) else n)

/-- The number of decimal digits of a number. -/
def decimalLength (n : Nat) : Nat :=
  if n = 0 then 0 else (Nat.toDigits 10 n).length

/-- Whether a number times a power of ten rounds to a finite floating-point number. -/
def isFinite (significand : Nat) (power : Int) : Bool :=
  let magnitude := decimalLength significand + power
  if significand = 0 || magnitude < 309 then true
  else if 309 < magnitude then false
  else
    (Binary64.ofRatio? (significand * Nat.pow 10 power.toNat) (Nat.pow 10 (-power).toNat)).isSome

/-- The exponent after its letter. -/
def exponent? (text : List Char) : Option Int :=
  let (negative, digits) := signed text
  (digits? 10 digits).map fun n => if negative then -(n : Int) else n

/-- Whether a word is a floating-point number: with a fraction, an exponent or both, or one of the
names of infinity and of no number. A positive one must be finite. -/
def isFloat (word : List Char) : Bool :=
  let (negative, text) := signed word
  let whole := text.takeWhile fun c => c.isDigit || c = '_'
  let fits (fraction : List Char) (power : Int) : Bool :=
    let places := fraction.filter (· ≠ '_')
    match whole? whole, digits? 10 (whole ++ places) with
    | some _, some significand => negative || isFinite significand (power - places.length)
    | _, _ => false
  match text.drop whole.length with
  | '.' :: rest =>
    let fraction := rest.takeWhile fun c => c.isDigit || c = '_'
    (digits? 10 fraction).isSome &&
      match rest.drop fraction.length with
      | [] => fits fraction 0
      | c :: power => (c = 'e' || c = 'E') && (exponent? power).any (fits fraction)
  | c :: rest =>
    if c = 'e' || c = 'E' then (exponent? rest).any (fits [])
    else text == ['i', 'n', 'f'] || text == ['n', 'a', 'n']
  | [] => false

/-! ### Dates and times -/

/-- Whether a text is a date. -/
def isDate (text : List Char) : Bool :=
  match Calendar.strictDate? text with
  | some (m, []) => m.isValid
  | _ => false

/-- Whether a text is a time of day. -/
def isTime (text : List Char) : Bool :=
  match Calendar.strictTime? {} text with
  | some (m, []) => m.isValid
  | _ => false

/-- Whether a text is a date and a time of day, with or without a zone. -/
def isDateTime (text : List Char) : Bool :=
  match (Calendar.strictDate? text).bind fun (day, rest) =>
      (Calendar.expect? Calendar.isDateEnd rest).bind (Calendar.strictTime? day) with
  | some (m, rest) => m.isValid && (rest.isEmpty || Calendar.offset? rest == some [])
  | none => false

/-! ### Words -/

/-- The value of a word. -/
def scalar? (word : List Char) : Option Toml :=
  if word = "true".toList then some (.boolean true)
  else if word = "false".toList then some (.boolean false)
  else if isDate word || isTime word || isDateTime word then
    some (.dateTime (String.ofList word))
  else
    match integer? word with
    | some value => some (.integer value)
    | none => if isFloat word then some (.float (String.ofList word)) else none

end SchemaCompiler.Toml
