import EntitlementRules.Decimal.Binary64
import EntitlementRules.Text.Digits
import EntitlementRules.Toml.Quoted
import EntitlementRules.Toml.Value

/-! Values that are written as bare words: truth values, numbers and points in time. -/
namespace EntitlementRules.Toml.Word

/-- The characters of bare words. -/
def isPart (c : Char) : Bool :=
  c.isAlphanum || c == '_' || c == '-' || c == '+' || c == '.' || c == ':'

/-- A list split at each occurrence of a character. -/
def splitAt (separator : Char) : List Char → List (List Char)
  | [] => [[]]
  | c :: rest =>
    if c = separator then [] :: splitAt separator rest
    else
      match splitAt separator rest with
      | first :: others => (c :: first) :: others
      | [] => [[c]]

/-! ## Numbers -/

/-- The digits of a number, in which single underscores may part groups. -/
def digitGroups? (isDigit : Char → Bool) (text : List Char) : Option (List Char) :=
  let groups := splitAt '_' text
  if groups.all fun group => !group.isEmpty && group.all isDigit then some groups.flatten else none

/-- Decimal digits without needless zeros in front. -/
def decimalDigits? (text : List Char) : Option (List Char) :=
  match digitGroups? Char.isDigit text with
  | some ['0'] => some ['0']
  | some ('0' :: _) => none
  | other => other

/-- The sign in front of a number, with the rest. -/
def sign (text : List Char) : Bool × List Char :=
  match text with
  | '-' :: rest => (true, rest)
  | '+' :: rest => (false, rest)
  | other => (false, other)

/-- An integer of 64 bits. -/
def bounded? (value : Int) : Option Toml :=
  if -9223372036854775808 ≤ value ∧ value ≤ 9223372036854775807 then some (.integer value) else none

/-- The number that digits of a base write. -/
def inBase? (base : Nat) (text : List Char) : Option Toml := do
  let isDigit (c : Char) : Bool := (hexDigit? c).any (· < base)
  let digits ← digitGroups? isDigit text
  bounded? (Int.ofNat (digits.foldl (fun value c => value * base + (hexDigit? c).getD 0) 0))

def integer? (text : List Char) : Option Toml :=
  match text with
  | '0' :: 'x' :: digits => inBase? 16 digits
  | '0' :: 'o' :: digits => inBase? 8 digits
  | '0' :: 'b' :: digits => inBase? 2 digits
  | _ => do
    let value := Int.ofNat (Text.decimal (← decimalDigits? (sign text).2))
    bounded? (if (sign text).1 then -value else value)

/-- The power of ten, beyond that of a digit, from which no number is finite. -/
def powerLimit : Int := 310

/-- Whether a decimal number rounds to a finite one. -/
def isFinite (digits : List Char) (exponent : Int) : Bool :=
  let value := Text.decimal digits
  if value = 0 then true
  else if powerLimit < digits.length + exponent then
    (digits.dropWhile (· == '0')).length + exponent ≤ powerLimit && finite value
  else finite value
where
  finite (value : Nat) : Bool :=
    if 0 ≤ exponent then (Binary64.ofRatio false (value * Nat.pow 10 exponent.toNat) 1).isSome
    else if digits.length + exponent < 0 then true
    else (Binary64.ofRatio false value (Nat.pow 10 exponent.natAbs)).isSome

/-- A number with a fraction, an exponent or both. One that is positive must not be too great. -/
def fraction? (text : List Char) : Option Toml := do
  let (negative, unsigned) := sign text
  let (mantissa, power) := unsigned.span fun c => c != 'e' && c != 'E'
  let (whole, point) := mantissa.span (· != '.')
  let wholeDigits ← decimalDigits? whole
  let pointDigits ← match point with
    | _ :: digits => digitGroups? Char.isDigit digits
    | [] => some []
  let exponent ← match power with
    | _ :: digits => do
      let value := Int.ofNat (Text.decimal (← digitGroups? Char.isDigit (sign digits).2))
      some (if (sign digits).1 then -value else value)
    | [] => some 0
  if point.isEmpty && power.isEmpty then none
  else if negative || isFinite (wholeDigits ++ pointDigits) (exponent - pointDigits.length) then
    some .fraction
  else none

/-- A number that is infinite or none at all. -/
def special? (text : List Char) : Option Toml :=
  if (sign text).2 = ['i', 'n', 'f'] || (sign text).2 = ['n', 'a', 'n'] then some .fraction else none

/-! ## Points in time -/

/-- The number that exactly so many digits write, when it lies between two bounds. -/
def digitsWithin? (count low high : Nat) (text : List Char) : Option Nat :=
  if text.length = count ∧ text.all Char.isDigit ∧ low ≤ Text.decimal text ∧
      Text.decimal text ≤ high then
    some (Text.decimal text)
  else none

def daysOf (year month : Nat) : Nat :=
  if month = 2 then
    if year % 4 = 0 ∧ (year % 100 ≠ 0 ∨ year % 400 = 0) then 29 else 28
  else if month = 4 ∨ month = 6 ∨ month = 9 ∨ month = 11 then 30
  else 31

/-- Whether a text is a day of the calendar. -/
def isDate (text : List Char) : Bool :=
  match splitAt '-' text with
  | [year, month, day] =>
    match digitsWithin? 4 0 9999 year, digitsWithin? 2 1 12 month with
    | some year, some month => (digitsWithin? 2 1 (daysOf year month) day).isSome
    | _, _ => false
  | _ => false

/-- Whether texts are an hour and a minute. -/
def isHourMinute (hour minute : List Char) : Bool :=
  (digitsWithin? 2 0 23 hour).isSome && (digitsWithin? 2 0 59 minute).isSome

/-- Whether a text is a time of day. A second may be a leap second. -/
def isTime (text : List Char) : Bool :=
  let (clock, point) := text.span (· != '.')
  let fractionFits :=
    match point with
    | _ :: digits => !digits.isEmpty && digits.all Char.isDigit
    | [] => true
  match splitAt ':' clock with
  | [hour, minute, second] =>
    isHourMinute hour minute && (digitsWithin? 2 0 60 second).isSome && fractionFits
  | _ => false

/-- Whether a text is a distance from universal time: an hour and a minute. -/
def isOffset (text : List Char) : Bool :=
  match splitAt ':' text with
  | [hour, minute] => isHourMinute hour minute
  | _ => false

/-- Whether a text is a time of day with or without a distance from universal time. -/
def isOffsetTime (text : List Char) : Bool :=
  match text.span fun c => c != '+' && c != '-' with
  | (time, _ :: offset) => isTime time && isOffset offset
  | (time, []) =>
    if time.getLast? = some 'Z' || time.getLast? = some 'z' then isTime time.dropLast
    else isTime time

/-- Whether a text is a date and a time with a letter between them. -/
def isDateTime (text : List Char) : Bool :=
  match text.drop 10 with
  | c :: time => (c == 'T' || c == 't') && isDate (text.take 10) && isOffsetTime time
  | [] => false

/-! ## Words -/

def value? (word : List Char) : Option Toml :=
  if word = ['t', 'r', 'u', 'e'] then some (.bool true)
  else if word = ['f', 'a', 'l', 's', 'e'] then some (.bool false)
  else if isDate word || isTime word || isDateTime word then some .moment
  else special? word <|> fraction? word <|> integer? word

/-- The text after a time of day that a blank sets off from a date before it. -/
def afterTime (text : List Char) : List Char :=
  match text with
  | ' ' :: rest => if isOffsetTime (rest.takeWhile isPart) then rest.dropWhile isPart else text
  | other => other

theorem length_afterTime_le (text : List Char) : (afterTime text).length ≤ text.length := by
  unfold afterTime
  split
  · split
    · exact Nat.le_succ_of_le (List.dropWhile_sublist isPart).length_le
    · exact Nat.le_refl _
  · exact Nat.le_refl _

/-- A value that is a bare word. A date and a time may be two of them. -/
def reader : Reader Toml := fun text =>
  match text with
  | [] => none
  | c :: rest =>
    if isPart c then
      let word := c :: rest.takeWhile isPart
      let after := rest.dropWhile isPart
      have atMost : after.length ≤ rest.length := (List.dropWhile_sublist isPart).length_le
      (value? word).map fun value =>
        ⟨value, if isDate word then afterTime after else after, by
          have := length_afterTime_le after
          simp only [List.length_cons]
          split <;> omega⟩
    else none

end EntitlementRules.Toml.Word
