import EntitlementRules.Text.Split

/-! Internet addresses: their forms in URLs and their texts. -/
namespace EntitlementRules

structure IPv4 where
  a : UInt8
  b : UInt8
  c : UInt8
  d : UInt8
  deriving Repr, DecidableEq

/-- A version 6 address: eight numbers of 16 bits. -/
structure IPv6 where
  pieces : Vector UInt16 8
  deriving Repr, DecidableEq

namespace IPv4

/-- The address of a number below `2 ^ 32`. -/
def ofNat (n : Nat) : IPv4 :=
  ⟨UInt8.ofNat (n / 16777216), UInt8.ofNat (n / 65536), UInt8.ofNat (n / 256), UInt8.ofNat n⟩

def text (address : IPv4) : String :=
  s!"{address.a.toNat}.{address.b.toNat}.{address.c.toNat}.{address.d.toNat}"

/-- Whether an address stays on the machine. -/
def isLoopback (address : IPv4) : Bool := address.a == 127

/-- The number that a digit of a base up to 16 stands for. -/
def digit? (base : Nat) (c : Char) : Option Nat :=
  let value :=
    if '0' ≤ c && c ≤ '9' then c.toNat - '0'.toNat
    else if 'a' ≤ c && c ≤ 'f' then c.toNat - 'a'.toNat + 10
    else if 'A' ≤ c && c ≤ 'F' then c.toNat - 'A'.toNat + 10
    else base
  if value < base then some value else none

/-- The number that digits of a base write; no digits write zero. -/
def digits? (base : Nat) (digits : List Char) : Option Nat :=
  digits.foldlM (fun value c => (digit? base c).map (value * base + ·)) 0

/-- A part of an address: decimal, octal after a zero, or hexadecimal after `0x`. -/
def part? (text : List Char) : Option Nat :=
  match text with
  | [] => none
  | '0' :: 'x' :: digits => digits? 16 digits
  | '0' :: 'X' :: digits => digits? 16 digits
  | '0' :: c :: digits => digits? 8 (c :: digits)
  | digits => digits? 10 digits

/-- The number that the parts of an address write: each but the last is a byte, the last fills up. -/
def ofParts? (parts : List Nat) : Option IPv4 :=
  let leading := parts.dropLast
  let last := parts.getLast?.getD 0
  if 4 < parts.length || leading.any (255 < ·) || Nat.pow 256 (4 - leading.length) ≤ last then none
  else
    some (ofNat (leading.zipIdx.foldl (fun number (value, place) =>
      number + value * Nat.pow 256 (3 - place)) last))

/-- The labels of a name without an empty one at its end. -/
def labels (name : String) : List String :=
  let all := Text.split '.' name
  if all.getLast? = some "" then all.dropLast else all

/-- Whether a name is one of an address: its last label is a number. -/
def isNumeric (name : String) : Bool :=
  match (labels name).getLast? with
  | none => false
  | some last => last != "" && (last.toList.all Char.isDigit || (part? last.toList).isSome)

def parse? (name : String) : Option IPv4 :=
  ((labels name).mapM fun label => part? label.toList).bind ofParts?

end IPv4

namespace IPv6

def ofList? (pieces : List UInt16) : Option IPv6 :=
  if length : pieces.length = 8 then some ⟨⟨pieces.toArray, by simpa using length⟩⟩ else none

/-- Whether an address stays on the machine. -/
def isLoopback (address : IPv6) : Bool := address.pieces.toList == [0, 0, 0, 0, 0, 0, 0, 1]

/-! ## Reading -/

/-- A piece of one to four hexadecimal digits. -/
def piece? (text : String) : Option UInt16 :=
  if text = "" || 4 < text.length then none
  else (IPv4.digits? 16 text.toList).map UInt16.ofNat

/-- A decimal number up to 255 without needless zeros. -/
def byte? (text : String) : Option Nat :=
  match text.toList with
  | [] => none
  | '0' :: _ :: _ => none
  | digits =>
    match IPv4.digits? 10 digits with
    | some value => if value ≤ 255 then some value else none
    | none => none

/-- The two pieces that a version 4 address writes. -/
def embedded? (text : String) : Option (List UInt16) := do
  let [a, b, c, d] ← (Text.split '.' text).mapM byte? | none
  return [UInt16.ofNat (a * 256 + b), UInt16.ofNat (c * 256 + d)]

/-- Pieces with colons between them; the last may be a version 4 address where one is allowed. -/
def pieces? (embeds : Bool) (text : String) : Option (List UInt16) :=
  if text = "" then some []
  else
    let parts := Text.split ':' text
    let last := parts.getLast?.getD ""
    if embeds && last.toList.contains '.' then do
      return (← parts.dropLast.mapM piece?) ++ (← embedded? last)
    else parts.mapM piece?

/-- The address that a text writes. Two colons in a row, once, stand for as many zeros as are missing. -/
def parse? (text : String) : Option IPv6 :=
  match (Text.splitDoubled ':' text.toList).map String.ofList with
  | [whole] => (pieces? true whole).bind ofList?
  | [front, back] => do
    let front ← pieces? false front
    let back ← pieces? true back
    if 8 ≤ front.length + back.length then none
    else ofList? (front ++ List.replicate (8 - front.length - back.length) 0 ++ back)
  | _ => none

/-! ## Text -/

/-- The length of the run of zeros at the start of a list. -/
def zerosAt (pieces : List UInt16) : Nat := (pieces.takeWhile (· == 0)).length

/-- The place and length of the first among the longest runs of zeros. -/
def longestZeros (pieces : List UInt16) : Nat × Nat :=
  (List.range pieces.length).foldl (fun best place =>
    let length := zerosAt (pieces.drop place)
    if best.2 < length then (place, length) else best) (0, 0)

def pieceText (piece : UInt16) : String := String.ofList (Nat.toDigits 16 piece.toNat)

def piecesText (pieces : List UInt16) : String := ":".intercalate (pieces.map pieceText)

/-- The text of an address, with its longest run of two or more zeros left out. -/
def text (address : IPv6) : String :=
  let pieces := address.pieces.toList
  let (place, length) := longestZeros pieces
  if length < 2 then piecesText pieces
  else piecesText (pieces.take place) ++ "::" ++ piecesText (pieces.drop (place + length))

end IPv6

end EntitlementRules
