import EntitlementRules.Text.Utf8

/-! Base64 with the standard alphabet: canonical padding is required and the bits that a last symbol
does not use must be zero. Each refusal says what is wrong and where. -/
namespace EntitlementRules.Base64

/-- Why a text is not base64. Offsets count bytes from the start of the text. -/
inductive Error where
  /-- A byte outside the alphabet, or a padding byte where a symbol belongs. -/
  | symbol (byte : UInt8) (offset : Nat)
  /-- A last symbol with bits that encode nothing. -/
  | lastSymbol (byte : UInt8) (offset : Nat)
  /-- One symbol is left over, which encodes no whole byte. -/
  | length (symbols : Nat)
  /-- The last group is not filled up to four with padding. -/
  | padding
  deriving Repr, DecidableEq

def Error.message : Error → String
  | symbol byte offset => s!"Invalid symbol {byte.toNat}, offset {offset}."
  | lastSymbol byte offset => s!"Invalid last symbol {byte.toNat}, offset {offset}."
  | length symbols => s!"Invalid input length: {symbols}"
  | padding => "Invalid padding"

/-- The padding byte `=`. -/
def pad : UInt8 := 61

def symbolOf (value : Nat) : UInt8 :=
  if value < 26 then UInt8.ofNat (65 + value)
  else if value < 52 then UInt8.ofNat (71 + value)
  else if value < 62 then UInt8.ofNat (value - 4)
  else if value = 62 then 43
  else 47

def valueOf? (symbol : UInt8) : Option Nat :=
  if 65 ≤ symbol && symbol ≤ 90 then some (symbol.toNat - 65)
  else if 97 ≤ symbol && symbol ≤ 122 then some (symbol.toNat - 71)
  else if 48 ≤ symbol && symbol ≤ 57 then some (symbol.toNat + 4)
  else if symbol == 43 then some 62
  else if symbol == 47 then some 63
  else none

/-- Three bytes become four symbols; the last one or two bytes are filled up with padding. -/
def encodeBytes : Bytes → Bytes
  | a :: b :: c :: rest =>
    symbolOf (a.toNat / 4) :: symbolOf (a.toNat % 4 * 16 + b.toNat / 16) ::
      symbolOf (b.toNat % 16 * 4 + c.toNat / 64) :: symbolOf (c.toNat % 64) :: encodeBytes rest
  | [a, b] =>
    [symbolOf (a.toNat / 4), symbolOf (a.toNat % 4 * 16 + b.toNat / 16),
      symbolOf (b.toNat % 16 * 4), pad]
  | [a] => [symbolOf (a.toNat / 4), symbolOf (a.toNat % 4 * 16), pad, pad]
  | [] => []

def encode (bytes : Bytes) : String :=
  String.ofList ((encodeBytes bytes).map fun symbol => Char.ofNat symbol.toNat)

/-- The number of the symbol at an offset. -/
def valueAt (offset : Nat) (symbol : UInt8) : Except Error Nat :=
  match valueOf? symbol with
  | some value => .ok value
  | none => .error (.symbol symbol offset)

/-- The bytes of a group of two numbers, whose last four bits must be zero. -/
def pairBytes (offset : Nat) (last : UInt8) (p q : Nat) : Except Error Bytes :=
  if q % 16 = 0 then .ok [UInt8.ofNat (p * 4 + q / 16)]
  else .error (.lastSymbol last (offset + 1))

/-- The bytes of a group of three numbers, whose last two bits must be zero. -/
def tripleBytes (offset : Nat) (last : UInt8) (p q r : Nat) : Except Error Bytes :=
  if r % 4 = 0 then .ok [UInt8.ofNat (p * 4 + q / 16), UInt8.ofNat (q % 16 * 16 + r / 4)]
  else .error (.lastSymbol last (offset + 2))

/-- The bytes of a group of four numbers. -/
def quadBytes (p q r s : Nat) : Bytes :=
  [UInt8.ofNat (p * 4 + q / 16), UInt8.ofNat (q % 16 * 16 + r / 4), UInt8.ofNat (r % 4 * 64 + s)]

/-- The last group, of at most four bytes. Padding may stand only after two or three symbols, and
no symbol may follow it. -/
def decodeLast (offset : Nat) : Bytes → Except Error Bytes
  | [] => .ok []
  | [a] => do
    discard <| valueAt offset a
    .error (.length (offset + 1))
  | [a, b] => do
    discard <| valueAt offset a
    discard <| valueAt (offset + 1) b
    .error .padding
  | [a, b, c] => do
    discard <| valueAt offset a
    discard <| valueAt (offset + 1) b
    unless c = pad do discard <| valueAt (offset + 2) c
    .error .padding
  | a :: b :: c :: d :: _ => do
    let p ← valueAt offset a
    let q ← valueAt (offset + 1) b
    if c = pad then
      if d = pad then pairBytes offset b p q else .error (.symbol pad (offset + 2))
    else
      let r ← valueAt (offset + 2) c
      if d = pad then tripleBytes offset c p q r
      else return quadBytes p q r (← valueAt (offset + 3) d)

/-- All groups of four, the last of which may be shorter or padded. -/
def decodeGroups (offset : Nat) : Bytes → Except Error Bytes
  | a :: b :: c :: d :: e :: rest => do
    let p ← valueAt offset a
    let q ← valueAt (offset + 1) b
    let r ← valueAt (offset + 2) c
    let s ← valueAt (offset + 3) d
    return quadBytes p q r s ++ (← decodeGroups (offset + 4) (e :: rest))
  | last => decodeLast offset last

/-- A byte that is no symbol and stands alone after whole groups is reported before any other. -/
def strayEnd? (text : Bytes) : Option Error :=
  match text.getLast? with
  | some last =>
    if text.length % 4 = 1 && last != pad && (valueOf? last).isNone
    then some (.symbol last (text.length - 1)) else none
  | none => none

/-- The bytes that a base64 text encodes. -/
def decode (text : Bytes) : Except Error Bytes :=
  match strayEnd? text with
  | some error => .error error
  | none => decodeGroups 0 text

end EntitlementRules.Base64
