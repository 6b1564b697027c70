/-
**Reading and writing JSON numbers.**

A whole number that fits 64 bits, signed or unsigned, is an integer. Every other number is a
floating-point number: its digits are gathered into a 64-bit significand as far as they fit, and a
power of ten scales the significand.

Written, a floating-point number has its shortest digits. Between `1e-5` and `1e16` they are laid
out around a point, a whole number with `.0`; elsewhere they are followed by an exponent with its
sign.
-/

import SchemaCompiler.Json.Basic
import SchemaCompiler.Binary64.Shortest

namespace SchemaCompiler.Json.Number

/-- The digits at the start of a text, and the rest. -/
def spanDigits (text : List Char) : List Char × List Char :=
  text.span Char.isDigit

/-- The value of a digit. -/
def digitValue (c : Char) : Nat :=
  c.toNat - '0'.toNat

/-- The parts of a written number. -/
structure Written where
  negative : Bool
  whole : List Char
  fraction : List Char
  power : Option Int

/-- A sign and digits after the letter of an exponent. -/
def exponent? (text : List Char) : Option Int :=
  let (sign, digits) : Int × List Char := match text with
    | '+' :: rest => (1, rest)
    | '-' :: rest => (-1, rest)
    | rest => (1, rest)
  if digits ≠ [] ∧ digits.all Char.isDigit then
    some (sign * (digits.foldl (fun n c => 10 * n + digitValue c) 0 : Nat))
  else none

/-- What may follow the digits of a number: nothing or an exponent. -/
def tail? : List Char → Option (Option Int)
  | [] => some none
  | 'e' :: rest => (exponent? rest).map some
  | 'E' :: rest => (exponent? rest).map some
  | _ => none

/-- The parts of a number: a sign, digits without a zero in front, a fraction and an exponent. -/
def written? (text : List Char) : Option Written :=
  let (negative, unsigned) := match text with
    | '-' :: rest => (true, rest)
    | rest => (false, rest)
  let (whole, rest) := spanDigits unsigned
  if whole = [] || (whole.head? == some '0' && whole.length ≠ 1) then none
  else match rest with
    | '.' :: rest =>
      let (fraction, rest) := spanDigits rest
      if fraction = [] then none
      else (tail? rest).map fun power => ⟨negative, whole, fraction, power⟩
    | rest => (tail? rest).map fun power => ⟨negative, whole, [], power⟩

/-- The number of values of a 64-bit word. -/
def wordSize : Nat := Nat.pow 2 64

/-- Append digits to a significand as long as it fits a word. The digits from the first one on
that does not fit are left over. -/
def gather : Nat → List Char → Nat × List Char
  | significand, [] => (significand, [])
  | significand, c :: rest =>
    let more := 10 * significand + digitValue c
    if more < wordSize then gather more rest else (significand, c :: rest)

/-- The value of a number, when it is in range. -/
def Written.value? (w : Written) : Option Number :=
  let (whole, wholeLeft) := gather 0 w.whole
  let magnitude (x : Option Binary64) : Option Number :=
    x.map fun x => .float { x with negative := w.negative }
  match w.fraction, w.power, wholeLeft with
  | [], none, [] =>
    if !w.negative then some (.integer whole)
    else if 0 < whole ∧ whole ≤ wordSize / 2 then some (.integer (-(whole : Int)))
    else magnitude (Binary64.ofRatio? whole 1)
  | fraction, power, _ =>
    let (significand, fractionLeft) := gather whole fraction
    let places : Int := wholeLeft.length - (fraction.length - fractionLeft.length : Nat)
    magnitude ((Binary64.ofRatio? significand 1).bind
      (·.scaleByTen? (places + power.getD 0)))

/-- The number that a text writes; nothing when it writes none or one out of range. -/
def ofText? (text : List Char) : Option Number :=
  (written? text).bind Written.value?

/-- Where floating-point numbers are laid out around a point: the decimal exponents of the first
digit. -/
structure PositionalRange where
  least : Int
  greatest : Int

/-- The positional range of JSON texts. -/
def positionalRange : PositionalRange := ⟨-5, 15⟩

/-- The digits of a decimal laid out around a point, `first` being the exponent of the first. -/
def positional (digits : List Char) (first : Int) : List Char :=
  if first < 0 then "0.".toList ++ List.replicate (-first - 1).toNat '0' ++ digits
  else
    let whole := first.toNat + 1
    if digits.length ≤ whole then
      digits ++ List.replicate (whole - digits.length) '0' ++ ".0".toList
    else digits.take whole ++ '.' :: digits.drop whole

/-- One digit, a point before the others, and an exponent with its sign. -/
def scientific (digits : List Char) (first : Int) : List Char :=
  let mantissa := match digits with
    | [] => []
    | [digit] => [digit]
    | digit :: rest => digit :: '.' :: rest
  let sign := if first < 0 then '-' else '+'
  mantissa ++ 'e' :: sign :: Nat.toDigits 10 first.natAbs

/-- The text of a floating-point number. -/
def floatText (x : Binary64) : String :=
  let magnitude :=
    if x.mantissa = 0 then "0.0".toList
    else
      let decimal := x.shortest
      let digits := Nat.toDigits 10 decimal.digits
      let first := decimal.exponent + digits.length - 1
      if positionalRange.least ≤ first ∧ first ≤ positionalRange.greatest
      then positional digits first
      else scientific digits first
  String.ofList (if x.negative then '-' :: magnitude else magnitude)

/-- The text of a number. -/
def text : Number → String
  | .integer value => toString value
  | .float value => floatText value

end SchemaCompiler.Json.Number
