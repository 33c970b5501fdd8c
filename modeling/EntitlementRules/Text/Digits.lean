/-! Decimal digits and the numbers that runs of them write. -/
namespace EntitlementRules.Text

/-- Whether a character is one of `0` to `9`. -/
def isDigit (c : Char) : Bool := '0' ≤ c && c ≤ '9'

/-- The number that decimal digits write. -/
def decimal (digits : List Char) : Nat :=
  digits.foldl (fun value c => value * 10 + (c.toNat - '0'.toNat)) 0

/-- The number that one or more digits write, if it lies below a bound. -/
def decimalBelow? (bound : Nat) (digits : List Char) : Option Nat :=
  if digits != [] && digits.all isDigit && decimal digits < bound then some (decimal digits)
  else none

end EntitlementRules.Text
