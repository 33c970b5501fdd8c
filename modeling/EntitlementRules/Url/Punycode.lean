/-! Punycode: text of any characters as text of ASCII letters, digits and hyphens. The ASCII characters come
first; then follow, as numbers of a varying base, where and which the others are. -/
namespace EntitlementRules.Punycode

def digitChar (digit : Nat) : Char := Char.ofNat (if digit < 26 then 97 + digit else 22 + digit)

/-- The digit that a character stands for. -/
def digit? (c : Char) : Option Nat :=
  if 'a' ≤ c && c ≤ 'z' then some (c.toNat - 97)
  else if 'A' ≤ c && c ≤ 'Z' then some (c.toNat - 65)
  else if '0' ≤ c && c ≤ '9' then some (c.toNat - 22)
  else none

/-- The least digit at a place that does not end a number. -/
def threshold (place bias : Nat) : Nat := min 26 (max 1 (place - bias))

theorem one_le_threshold (place bias : Nat) : 1 ≤ threshold place bias := by
  unfold threshold; omega

/-- Halves a difference step by step, with the places that this saves. -/
def shrink (delta places : Nat) : Nat × Nat :=
  if 455 < delta then shrink (delta / 35) (places + 36) else (delta, places)
termination_by delta
decreasing_by omega

/-- The bias after a difference, with so many characters in all. -/
def adapt (delta count : Nat) (isFirst : Bool) : Nat :=
  let damped := if isFirst then delta / 700 else delta / 2
  let (rest, places) := shrink (damped + damped / count) 0
  places + 36 * rest / (rest + 38)

/-! ## Encoding -/

/-- The digits of a number, from a place on. -/
def digits (bias place number : Nat) : List Char :=
  let limit := threshold place bias
  if number < limit then [digitChar number]
  else digitChar (limit + (number - limit) % (36 - limit))
    :: digits bias (place + 36) ((number - limit) / (36 - limit))
termination_by number
decreasing_by
  have positive := one_le_threshold place bias
  exact Nat.lt_of_le_of_lt (Nat.div_le_self _ _) (by omega)

structure Encoding where
  output : List Char
  /-- What lies between the last character that is written and the next. -/
  delta : Nat := 0
  bias : Nat := 72
  /-- How many characters are written. -/
  count : Nat

/-- Passes a character, and writes it if it is the one whose turn it is. -/
def Encoding.pass (ascii turn : Nat) (encoding : Encoding) (c : Char) : Encoding :=
  if c.toNat < turn then { encoding with delta := encoding.delta + 1 }
  else if c.toNat = turn then
    { output := encoding.output ++ digits encoding.bias 36 encoding.delta
      delta := 0
      bias := adapt encoding.delta (encoding.count + 1) (encoding.count == ascii)
      count := encoding.count + 1 }
  else encoding

/-- Writes the characters whose turns come one after another. -/
def Encoding.advance (text : List Char) (ascii : Nat) : (next : Nat) → (turns : List Nat) →
    Encoding → Encoding
  | _, [], encoding => encoding
  | next, turn :: rest, encoding =>
    let reached := { encoding with
      delta := encoding.delta + (turn - next) * (encoding.count + 1) }
    let passed := text.foldl (pass ascii turn) reached
    advance text ascii (turn + 1) rest { passed with delta := passed.delta + 1 }

def isAscii (c : Char) : Bool := c.toNat < 128

def encode (text : List Char) : List Char :=
  let ascii := text.filter isAscii
  let turns := ((text.filter (!isAscii ·)).map Char.toNat).mergeSort.eraseDups
  let start := if ascii = [] then [] else ascii ++ ['-']
  (Encoding.advance text ascii.length 128 turns { output := start, count := ascii.length }).output

/-! ## Decoding -/

structure Decoding where
  output : List Char
  /-- The character whose turn it is. -/
  turn : Nat := 128
  /-- Where the last character went, and what of the next number is read on top of it. -/
  reached : Nat := 0
  start : Nat := 0
  bias : Nat := 72
  place : Nat := 36
  weight : Nat := 1

/-- Reads a digit. The last one of a number puts a character into the output. -/
def Decoding.read (decoding : Decoding) (digit : Nat) : Option Decoding :=
  let reached := decoding.reached + digit * decoding.weight
  let limit := threshold decoding.place decoding.bias
  if limit ≤ digit then
    some { decoding with
      reached
      place := decoding.place + 36
      weight := decoding.weight * (36 - limit) }
  else
    let count := decoding.output.length + 1
    let turn := decoding.turn + reached / count
    let position := reached % count
    if h : turn.isValidChar then
      some {
        output := decoding.output.take position
          ++ Char.ofNatAux turn h :: decoding.output.drop position
        turn
        reached := position + 1
        start := position + 1
        bias := adapt (reached - decoding.start) count (decoding.start == 0) }
    else none

def decode? (text : List Char) : Option (List Char) := do
  let tail := (text.reverse.takeWhile (· != '-')).reverse
  let ascii := text.take (text.length - tail.length - 1)
  let (ascii, tail) := if ascii = [] then ([], text) else (ascii, tail)
  let end_ ← tail.foldlM (fun decoding c => do decoding.read (← digit? c))
    ({ output := ascii } : Decoding)
  if end_.place = 36 then some end_.output else none

end EntitlementRules.Punycode
