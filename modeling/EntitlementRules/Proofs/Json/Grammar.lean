import EntitlementRules.Json.Value
import EntitlementRules.Text.Ascii

/-! The grammar of JSON: which bytes write which value. Nothing here reads; strings, members and nesting are
described by what may be written for them. -/
namespace EntitlementRules.Json

/-! ## Strings -/

/-- A hexadecimal digit of either case, with its value. -/
def HexDigit (b : UInt8) (value : Nat) : Prop :=
  value < 16 ∧ (b = Ascii.byte (Nat.digitChar value) ∨ b = Ascii.byte (Nat.digitChar value).toUpper)

/-- Four hexadecimal digits, with the number that they write. -/
inductive Hexadecimal : Bytes → Nat → Prop where
  | digits {a b c d : UInt8} {p q r s : Nat} (first : HexDigit a p) (second : HexDigit b q)
      (third : HexDigit c r) (fourth : HexDigit d s) :
      Hexadecimal [a, b, c, d] (((p * 16 + q) * 16 + r) * 16 + s)

/-- The letters that may follow a backslash, with the characters that they stand for. -/
def letterEscapes : List (Char × Char) :=
  [('"', '"'), ('\\', '\\'), ('/', '/'), ('b', '\x08'), ('f', '\x0c'), ('n', '\n'), ('r', '\r'), ('t', '\t')]

/-- What may follow a backslash, with the bytes of the character that it stands for. A character beyond 16
bits is written as two surrogates. -/
inductive Escape : Bytes → Bytes → Prop where
  | letter {letter c : Char} (known : (letter, c) ∈ letterEscapes) :
      Escape [Ascii.byte letter] [Ascii.byte c]
  | unit {digits : Bytes} {number : Nat} (written : Hexadecimal digits number)
      (scalar : number < 0xD800 ∨ 0xDFFF < number) :
      Escape (Ascii.byte 'u' :: digits) (String.utf8EncodeChar (Char.ofNat number))
  | pair {lead trail : Bytes} {high low : Nat} (first : Hexadecimal lead high)
      (leads : 0xD800 ≤ high ∧ high ≤ 0xDBFF) (second : Hexadecimal trail low)
      (trails : 0xDC00 ≤ low ∧ low ≤ 0xDFFF) :
      Escape (Ascii.byte 'u' :: (lead ++ Ascii.backslash :: Ascii.byte 'u' :: trail))
        (String.utf8EncodeChar (Char.ofNat (0x10000 + (high - 0xD800) * 0x400 + (low - 0xDC00))))

/-- What may stand between the quotation marks of a string, with the bytes that it stands for. The bytes of
a character beyond ASCII stand for themselves, one by one. -/
inductive Characters : Bytes → Bytes → Prop where
  | nil : Characters [] []
  | plain {b : UInt8} {text bytes : Bytes} (printable : 0x20 ≤ b) (unquoted : b ≠ Ascii.quotation)
      (bare : b ≠ Ascii.backslash) (rest : Characters text bytes) :
      Characters (b :: text) (b :: bytes)
  | escaped {code character text bytes : Bytes} (escape : Escape code character)
      (rest : Characters text bytes) :
      Characters (Ascii.backslash :: (code ++ text)) (character ++ bytes)

/-- A string between its quotation marks, with the text that it stands for. -/
def Literal (written : Bytes) (value : String) : Prop :=
  ∃ inside, written = Ascii.quotation :: (inside ++ [Ascii.quotation]) ∧
    Characters inside (Text.Utf8.encode value)

/-! ## Numbers -/

/-- One decimal digit or more. -/
def Digits (text : Bytes) : Prop := text ≠ [] ∧ ∀ b ∈ text, Ascii.isDigit b = true

inductive Fraction : Bytes → Prop where
  | none : Fraction []
  | digits {text : Bytes} (digits : Digits text) : Fraction (Ascii.point :: text)

inductive Exponent : Bytes → Prop where
  | none : Exponent []
  | digits {e : UInt8} {sign text : Bytes} (letter : e = Ascii.byte 'e' ∨ e = Ascii.byte 'E')
      (signed : sign = [] ∨ sign = [Ascii.plus] ∨ sign = [Ascii.minus]) (digits : Digits text) :
      Exponent (e :: (sign ++ text))

/-- A number without its sign. No zero leads other digits. -/
inductive Magnitude : Bytes → Prop where
  | parts {whole fraction exponent : Bytes} (digits : Digits whole)
      (leads : whole.head? = some Ascii.zero → whole = [Ascii.zero]) (decimals : Fraction fraction)
      (scale : Exponent exponent) : Magnitude (whole ++ (fraction ++ exponent))

inductive Numeral : Bytes → Prop where
  | positive {text : Bytes} (magnitude : Magnitude text) : Numeral text
  | negative {text : Bytes} (magnitude : Magnitude text) : Numeral (Ascii.minus :: text)

/-! ## Values -/

/-- Spaces, line feeds, tabs and carriage returns. -/
def Blanks (text : Bytes) : Prop := ∀ b ∈ text, b = 32 ∨ b = 10 ∨ b = 9 ∨ b = 13

/-- Items with commas between them, and blanks around each. -/
inductive Listing {α : Type} (item : α → Bytes → Prop) : List α → Bytes → Prop where
  | last {value : α} {before text after : Bytes} (leading : Blanks before) (written : item value text)
      (trailing : Blanks after) : Listing item [value] (before ++ (text ++ after))
  | next {value : α} {values : List α} {before text after rest : Bytes} (leading : Blanks before)
      (written : item value text) (trailing : Blanks after) (others : Listing item values rest) :
      Listing item (value :: values) (before ++ (text ++ (after ++ Ascii.comma :: rest)))

/-- What stands between brackets or braces. -/
inductive Group {α : Type} (item : α → Bytes → Prop) : List α → Bytes → Prop where
  | empty {text : Bytes} (blanks : Blanks text) : Group item [] text
  | filled {values : List α} {text : Bytes} (listing : Listing item values text) : Group item values text

inductive Member (value : Json → Bytes → Prop) : String × Json → Bytes → Prop where
  | named {name : String} {content : Json} {key before after text : Bytes} (keyed : Literal key name)
      (leading : Blanks before) (trailing : Blanks after) (written : value content text) :
      Member value (name, content) (key ++ (before ++ Ascii.colon :: (after ++ text)))

/-- The values without parts. Which number a numeral stands for is left open. -/
inductive Scalar (stands : Json.Number → Bytes → Prop) : Json → Bytes → Prop where
  | null : Scalar stands .null (Text.Utf8.encode "null")
  | true : Scalar stands (.bool true) (Text.Utf8.encode "true")
  | false : Scalar stands (.bool false) (Text.Utf8.encode "false")
  | number {number : Json.Number} {text : Bytes} (numeral : Numeral text) (value : stands number text) :
      Scalar stands (.number number) text
  | string {value : String} {text : Bytes} (literal : Literal text value) :
      Scalar stands (.string value) text

/-- One level of values, over those that arrays and objects may hold. Of an object's members with one key
the last counts. -/
inductive Level (stands : Json.Number → Bytes → Prop) (inner : Json → Bytes → Prop) :
    Json → Bytes → Prop where
  | scalar {value : Json} {text : Bytes} (scalar : Scalar stands value text) :
      Level stands inner value text
  | array {items : List Json} {text : Bytes} (group : Group inner items text) :
      Level stands inner (.array items) (Ascii.openBracket :: (text ++ [Ascii.closeBracket]))
  | object {members : List (String × Json)} {text : Bytes} (group : Group (Member inner) members text) :
      Level stands inner (ofMembers members) (Ascii.openBrace :: (text ++ [Ascii.closeBrace]))

/-- The texts of a value in which no more than `depth` arrays and objects are open at once. -/
def Spells (stands : Json.Number → Bytes → Prop) : (depth : Nat) → Json → Bytes → Prop
  | 0 => Scalar stands
  | depth + 1 => Level stands (Spells stands depth)

/-- A text with blanks around it. -/
inductive Padded (written : Bytes → Prop) : Bytes → Prop where
  | around {before text after : Bytes} (leading : Blanks before) (inside : written text)
      (trailing : Blanks after) : Padded written (before ++ (text ++ after))

/-- An object with the members that are given, one after another, whose values may be nested up to a
depth. -/
def ObjectOf (stands : Json.Number → Bytes → Prop) (depth : Nat) (members : List (String × Json))
    (text : Bytes) : Prop :=
  ∃ inside, text = Ascii.openBrace :: (inside ++ [Ascii.closeBrace]) ∧
    Group (Member (Spells stands depth)) members inside

end EntitlementRules.Json
