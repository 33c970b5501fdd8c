import EntitlementRules.Decimal.Binary64

/-! The shortest decimal text of a binary64 number: the fewest digits that read back, and among
those the digits nearest to the number. -/
namespace EntitlementRules.Decimal

/-- The number `digits * 10 ^ exponent`. -/
structure Scaled where
  digits : Nat
  exponent : Int
  deriving Repr, DecidableEq

/-- The same value without zeros at the end of its digits. -/
def Scaled.reduce (value : Scaled) : Scaled :=
  if value.digits ≠ 0 ∧ value.digits % 10 = 0
  then Scaled.reduce ⟨value.digits / 10, value.exponent + 1⟩ else value
termination_by value.digits
decreasing_by omega

/-- `10 ^ exponent` as a ratio. -/
def powerOfTen (exponent : Int) : Nat × Nat :=
  if 0 ≤ exponent then (Nat.pow 10 exponent.toNat, 1) else (1, Nat.pow 10 (-exponent).toNat)

/-- How many decimal digits a natural number is written with. -/
def digitCount (n : Nat) : Nat := (Nat.toDigits 10 n).length

/-- The exponent of the highest decimal digit of a positive ratio. -/
def leadingExponent (numerator denominator : Nat) : Int :=
  if denominator ≤ numerator then (digitCount (numerator / denominator) : Int) - 1
  else
    let places := digitCount (denominator / numerator)
    if denominator ≤ numerator * Nat.pow 10 (places - 1) then -((places : Int) - 1) else -(places : Int)

/-- The numbers that read back as `mantissa * 2 ^ exponent`, in quarters of `2 ^ exponent`: an upper
and a lower bound, which belong to them when the mantissa is even. -/
structure Interval where
  low : Nat
  high : Nat
  closed : Bool

/-- The gap below a power of two is half as wide as the gap above it. -/
def interval (number : Binary64) : Interval where
  low := if number.mantissa = Nat.pow 2 52 && number.exponent != Binary64.leastExponent
    then 4 * number.mantissa - 1 else 4 * number.mantissa - 2
  high := 4 * number.mantissa + 2
  closed := number.mantissa % 2 == 0

/-- Whether `digits * 10 ^ exponent` reads back as a number. -/
def readsBack (number : Binary64) (candidate : Scaled) : Bool :=
  let bounds := interval number
  let ten := powerOfTen candidate.exponent
  let unit := Binary64.powerOfTwo (number.exponent - 2)
  let value := candidate.digits * ten.1 * unit.2
  let low := bounds.low * unit.1 * ten.2
  let high := bounds.high * unit.1 * ten.2
  if bounds.closed then low ≤ value && value ≤ high else low < value && value < high

/-- Of the two neighbours of a number on the grid of `10 ^ exponent`, the one that reads back; of two
the nearer, and of two equally near the even one. -/
def neighbour? (number : Binary64) (exponent : Int) : Option Scaled :=
  let ten := powerOfTen exponent
  let numerator := number.ratio.1 * ten.2
  let denominator := number.ratio.2 * ten.1
  let nearest : Scaled := ⟨Binary64.roundQuotient numerator denominator, exponent⟩
  let below : Scaled := ⟨numerator / denominator, exponent⟩
  let above : Scaled := ⟨numerator / denominator + 1, exponent⟩
  [nearest, below, above].find? (readsBack number)

/-- The shortest decimal that reads back as a number other than zero: seventeen digits are always
enough. -/
def shortest (number : Binary64) : Scaled :=
  let lead := leadingExponent number.ratio.1 number.ratio.2
  let found := (List.range 17).findSome? fun (more : Nat) => neighbour? number (lead - more)
  (found.getD ⟨0, 0⟩).reduce

/-- How a decimal is laid out: between two exponents of the leading digit it is positional, with a
`.0` where it is whole; outside them it has an exponent with a sign. -/
structure Layout where
  leastPositional : Int
  greatestPositional : Int
  deriving Repr, DecidableEq

def Layout.render (layout : Layout) (value : Scaled) : String :=
  let digits := Nat.toDigits 10 value.digits
  let lead := value.exponent + digits.length - 1
  if layout.leastPositional ≤ lead && lead ≤ layout.greatestPositional then
    if 0 ≤ value.exponent then
      String.ofList (digits ++ List.replicate value.exponent.toNat '0') ++ ".0"
    else if 0 ≤ lead then
      String.ofList (digits.take (lead.toNat + 1) ++ '.' :: digits.drop (lead.toNat + 1))
    else String.ofList ('0' :: '.' :: List.replicate ((-lead).toNat - 1) '0' ++ digits)
  else
    let fraction := if digits.length = 1 then [] else '.' :: digits.drop 1
    let sign := if 0 ≤ lead then "+" else "-"
    String.ofList (digits.take 1 ++ fraction) ++ "e" ++ sign ++ toString lead.natAbs

end EntitlementRules.Decimal
