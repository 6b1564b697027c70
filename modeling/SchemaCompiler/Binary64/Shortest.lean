/-
**Shortest decimals.**

Every number stands for the interval of reals that round to it, ends included when its mantissa is
even. Its shortest decimal is the one with the fewest digits in that interval, and of these the
nearest to the number. The search tries the decimal grids from one digit to seventeen; on each grid
only the two points around the number can lie in the interval when any point does.
-/

import SchemaCompiler.Binary64.Basic

namespace SchemaCompiler.Binary64

/-- The decimal `digits · 10 ^ exponent`. -/
structure Decimal where
  digits : Nat
  exponent : Int
  deriving DecidableEq

/-- A positive ratio that is compared with decimals, with the ends of its rounding interval. The
three share one denominator. -/
structure Interval where
  low : Nat
  value : Nat
  high : Nat
  denominator : Nat
  closed : Bool

/-- The interval that rounds to a number. Below a power of two the numbers are twice as dense. -/
def interval (x : Binary64) : Interval :=
  let (n, d) := x.ratio
  let unit := n / x.mantissa
  let below := if x.mantissa = Nat.pow 2 52 ∧ leastExponent < x.exponent then unit else 2 * unit
  { low := 4 * n - below, value := 4 * n, high := 4 * n + 2 * unit, denominator := 4 * d,
    closed := x.mantissa % 2 == 0 }

/-- The greatest power of ten that is not above a positive ratio. -/
def floorLog10 (numerator denominator : Nat) : Int :=
  if denominator ≤ numerator then
    ((Nat.toDigits 10 (numerator / denominator)).length : Int) - 1
  else
    let places := (Nat.toDigits 10 (denominator / numerator)).length
    if numerator * Nat.pow 10 (places - 1) = denominator then 1 - (places : Int)
    else -(places : Int)

/-- A ratio divided by a power of ten, as a ratio of naturals. -/
def scaledByTen (numerator denominator : Nat) (power : Int) : Nat × Nat :=
  (numerator * Nat.pow 10 (-power).toNat, denominator * Nat.pow 10 power.toNat)

/-- Whether `digits · 10 ^ exponent` lies in the interval. -/
def Interval.holds (i : Interval) (digits : Nat) (exponent : Int) : Bool :=
  let (low, scale) := scaledByTen i.low i.denominator exponent
  let (high, _) := scaledByTen i.high i.denominator exponent
  let point := digits * scale
  if i.closed then low ≤ point && point ≤ high else low < point && point < high

/-- The nearer of the two points of a decimal grid around the number that lies in the interval. -/
def Interval.onGrid? (i : Interval) (exponent : Int) : Option Decimal :=
  let (n, d) := scaledByTen i.value i.denominator exponent
  let below := n / d
  let rest := n % d
  match i.holds below exponent, i.holds (below + 1) exponent with
  | true, true =>
    let upward := d < 2 * rest || (d == 2 * rest && below % 2 == 1)
    some ⟨if upward then below + 1 else below, exponent⟩
  | true, false => some ⟨below, exponent⟩
  | false, true => some ⟨below + 1, exponent⟩
  | false, false => none

/-- The decimal with the zeros at the end of its digits moved to the exponent. -/
def Decimal.stripZeros (d : Decimal) : Decimal :=
  if h : d.digits ≠ 0 ∧ d.digits % 10 = 0 then
    Decimal.stripZeros ⟨d.digits / 10, d.exponent + 1⟩
  else d
termination_by d.digits
decreasing_by omega

/-- The shortest decimal of a positive number. -/
def shortest (x : Binary64) : Decimal :=
  let i := x.interval
  let top := floorLog10 i.value i.denominator
  let grids := (List.range 17).map fun (places : Nat) => top - places
  ((grids.findSome? i.onGrid?).getD ⟨0, 0⟩).stripZeros

example : (ofRatio? 3 10).map shortest = some ⟨3, -1⟩ := by decide +kernel
example : (ofRatio? 1 (2 ^ 1074)).map shortest = some ⟨5, -324⟩ := by decide +kernel
example : (ofRatio? (2 ^ 1023) 1).map shortest = some ⟨898846567431158, 293⟩ := by decide +kernel

end SchemaCompiler.Binary64
