/-
**Binary floating-point numbers with 53 bits.**

A finite number is a sign, a natural mantissa and a power of two. Products and quotients are the
exact rational results, rounded to the nearest number, a tie going to the even mantissa.
-/

namespace SchemaCompiler

/-- The number `± mantissa · 2 ^ exponent`. -/
structure Binary64 where
  negative : Bool
  mantissa : Nat
  exponent : Int
  deriving DecidableEq

namespace Binary64

/-- The quotient of two naturals rounded to the nearest natural, a tie to the even one. -/
def roundedQuotient (numerator denominator : Nat) : Nat :=
  let quotient := numerator / denominator
  let double := 2 * (numerator % denominator)
  if double < denominator then quotient
  else if denominator < double then quotient + 1
  else quotient + quotient % 2

/-- A ratio times a power of two, as a ratio of naturals. -/
def scaled (numerator denominator : Nat) (power : Int) : Nat × Nat :=
  (numerator * Nat.pow 2 power.toNat, denominator * Nat.pow 2 (-power).toNat)

/-- The greatest power of two that is not above a positive ratio. -/
def floorLog2 (numerator denominator : Nat) : Int :=
  let guess : Int := numerator.log2 - denominator.log2
  let (n, d) := scaled numerator denominator (-guess)
  if d ≤ n then guess else guess - 1

/-- The exponent of the smallest positive number. -/
def leastExponent : Int := -1074

/-- The exponent of the greatest number. -/
def greatestExponent : Int := 971

/-- The number nearest to a ratio of naturals; nothing when it is out of range. -/
def ofRatio? (numerator denominator : Nat) : Option Binary64 :=
  if numerator = 0 then some ⟨false, 0, leastExponent⟩
  else
    let exponent := max leastExponent (floorLog2 numerator denominator - 52)
    let (n, d) := scaled numerator denominator (-exponent)
    let mantissa := roundedQuotient n d
    let (mantissa, exponent) :=
      if mantissa = Nat.pow 2 53 then (Nat.pow 2 52, exponent + 1) else (mantissa, exponent)
    if greatestExponent < exponent then none else some ⟨false, mantissa, exponent⟩

/-- The magnitude of a number as a ratio of naturals. -/
def ratio (x : Binary64) : Nat × Nat :=
  scaled x.mantissa 1 x.exponent

/-- The product of the magnitudes of two numbers. -/
def times? (x y : Binary64) : Option Binary64 :=
  ofRatio? (x.ratio.1 * y.ratio.1) (x.ratio.2 * y.ratio.2)

/-- The quotient of the magnitudes of two numbers, the second one positive. -/
def over? (x y : Binary64) : Option Binary64 :=
  ofRatio? (x.ratio.1 * y.ratio.2) (x.ratio.2 * y.ratio.1)

/-- The number nearest to a power of ten. -/
def tenTo? (power : Nat) : Option Binary64 :=
  ofRatio? (Nat.pow 10 power) 1

/-- The greatest power of ten in range. -/
def greatestTenPower : Nat := 308

/-- A non-negative number times a power of ten. One multiplication or division scales it, after
divisions by the greatest power of ten in range while the power is too small for that. -/
def scaleByTen? (x : Binary64) (power : Int) : Option Binary64 :=
  if power.natAbs ≤ greatestTenPower then
    (tenTo? power.natAbs).bind fun ten => if 0 ≤ power then x.times? ten else x.over? ten
  else if x.mantissa = 0 then some x
  else if 0 ≤ power then none
  else
    ((tenTo? greatestTenPower).bind x.over?).bind fun less =>
      scaleByTen? less (power + greatestTenPower)
termination_by (-power).toNat
decreasing_by
  simp only [greatestTenPower] at *
  omega

example : ofRatio? 1 10 = some ⟨false, 7205759403792794, -56⟩ := by decide +kernel
example : ofRatio? (10 ^ 309) 1 = none := by decide +kernel

end Binary64

end SchemaCompiler
