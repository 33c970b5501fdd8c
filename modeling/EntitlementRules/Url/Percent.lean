import EntitlementRules.Text.Ascii

/-! Percent encoding: bytes written as a percent sign and two hexadecimal digits. -/
namespace EntitlementRules.Percent

/-- Which ASCII characters are encoded. All other characters are. -/
abbrev EncodeSet := Char → Bool

def controls : EncodeSet := fun c => c < ' ' || c == '\x7f'

def fragments : EncodeSet := fun c =>
  controls c || c == ' ' || c == '"' || c == '<' || c == '>' || c == '`'

def paths : EncodeSet := fun c =>
  fragments c || c == '#' || c == '?' || c == '\x7b' || c == '\x7d'

def userinfo : EncodeSet := fun c =>
  paths c || c == '/' || c == ':' || c == ';' || c == '=' || c == '@' || c == '[' || c == '\\'
    || c == ']' || c == '^' || c == '|'

def queries : EncodeSet := fun c =>
  controls c || c == ' ' || c == '"' || c == '#' || c == '<' || c == '>'

/-- Queries of the schemes with a meaning of their own. -/
def specialQueries : EncodeSet := fun c => queries c || c == '\''

/-- A hexadecimal digit as encodings show it. -/
def hexDigit (n : Nat) : Char := Char.ofNat (if n < 10 then n + '0'.toNat else n - 10 + 'A'.toNat)

def encodeByte (b : UInt8) : List Char := ['%', hexDigit (b.toNat / 16), hexDigit (b.toNat % 16)]

/-- A character as it stands in encoded text. -/
def encodeChar (set : EncodeSet) (c : Char) : List Char :=
  if c < '\x80' && !set c then [c] else (Text.Utf8.encode (String.singleton c)).flatMap encodeByte

def encode (set : EncodeSet) (text : List Char) : List Char := text.flatMap (encodeChar set)

/-- The bytes that encoded bytes stand for. A percent sign without two digits stands for itself. -/
def decode : Bytes → Bytes
  | 37 :: a :: b :: rest =>
    match Ascii.hexValue? a, Ascii.hexValue? b with
    | some high, some low => UInt8.ofNat (high * 16 + low) :: decode rest
    | _, _ => 37 :: decode (a :: b :: rest)
  | b :: rest => b :: decode rest
  | [] => []

end EntitlementRules.Percent
