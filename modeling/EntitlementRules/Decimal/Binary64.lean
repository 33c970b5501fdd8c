/-! Finite numbers in the IEEE 754 binary64 format, in exact arithmetic: rounding a ratio to the
nearest of them, multiplying, dividing, and scaling by powers of ten. -/
namespace EntitlementRules

/-- The finite number `mantissa * 2 ^ exponent`, negative or not. A zero keeps its sign. -/
structure Binary64 where
  negative : Bool
  mantissa : Nat
  exponent : Int
  deriving Repr, DecidableEq

namespace Binary64

/-- The exponent of the smallest positive number. -/
def leastExponent : Int := -1074

/-- The exponent of the greatest numbers. -/
def greatestExponent : Int := 971

/-- `2 ^ exponent` as a ratio. -/
def powerOfTwo (exponent : Int) : Nat × Nat :=
  if 0 ≤ exponent then (Nat.pow 2 exponent.toNat, 1) else (1, Nat.pow 2 (-exponent).toNat)

/-- The quotient of two natural numbers, rounded to the nearest, a half to the even neighbour. -/
def roundQuotient (numerator denominator : Nat) : Nat :=
  let quotient := numerator / denominator
  let doubled := 2 * (numerator % denominator)
  if denominator < doubled || (denominator == doubled && quotient % 2 == 1)
  then quotient + 1 else quotient

/-- The number nearest to a ratio, or `none` when the ratio lies beyond all finite numbers. -/
def ofRatio (negative : Bool) (numerator denominator : Nat) : Option Binary64 :=
  if numerator = 0 then some ⟨negative, 0, leastExponent⟩
  else
    let guess := max leastExponent
      ((Nat.log2 numerator : Int) - (Nat.log2 denominator : Int) - 53)
    let unit := powerOfTwo guess
    let exponent :=
      if Nat.pow 2 53 ≤ numerator * unit.2 / (denominator * unit.1) then guess + 1 else guess
    let unit := powerOfTwo exponent
    let mantissa := roundQuotient (numerator * unit.2) (denominator * unit.1)
    let (mantissa, exponent) :=
      if mantissa = Nat.pow 2 53 then (Nat.pow 2 52, exponent + 1) else (mantissa, exponent)
    if exponent ≤ greatestExponent then some ⟨negative, mantissa, exponent⟩ else none

def isZero (number : Binary64) : Bool := number.mantissa == 0

def ratio (number : Binary64) : Nat × Nat :=
  let unit := powerOfTwo number.exponent
  (number.mantissa * unit.1, unit.2)

/-- The rounded product, unless it lies beyond all finite numbers. -/
def mul? (a b : Binary64) : Option Binary64 :=
  ofRatio (a.negative != b.negative) (a.ratio.1 * b.ratio.1) (a.ratio.2 * b.ratio.2)

/-- The rounded quotient, unless it lies beyond all finite numbers. -/
def div? (a b : Binary64) : Option Binary64 :=
  ofRatio (a.negative != b.negative) (a.ratio.1 * b.ratio.2) (a.ratio.2 * b.ratio.1)

def neg (number : Binary64) : Binary64 := { number with negative := !number.negative }

def zero : Binary64 := ⟨false, 0, leastExponent⟩

/-- The greatest power of ten that is taken in one step. -/
def tenStep : Nat := 308

/-- The number nearest to a power of ten up to `10 ^ tenStep`. -/
def powerOfTen (exponent : Nat) : Binary64 := (ofRatio false (Nat.pow 10 exponent) 1).getD zero

/-- A number times a power of ten, rounded after each step of at most `tenStep`; `none` when it
grows beyond all finite numbers. -/
def scaleByTen? (number : Binary64) (exponent : Int) : Option Binary64 :=
  if exponent.natAbs ≤ tenStep then
    if 0 ≤ exponent then number.mul? (powerOfTen exponent.natAbs)
    else number.div? (powerOfTen exponent.natAbs)
  else if number.isZero then some number
  else if 0 ≤ exponent then none
  else (number.div? (powerOfTen tenStep)).bind fun smaller => scaleByTen? smaller (exponent + tenStep)
termination_by exponent.natAbs
decreasing_by simp only [tenStep] at *; omega

end Binary64

end EntitlementRules
