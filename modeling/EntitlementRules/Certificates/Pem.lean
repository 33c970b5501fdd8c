import EntitlementRules.Base64
import EntitlementRules.Text.Ascii

/-! PEM: texts with sections of base64 between two marked lines. All else in a text is passed over. -/
namespace EntitlementRules.Pem

/-- What the label of a section says that it holds. -/
inductive Kind where
  | certificate
  | privateKey
  | rsaPrivateKey
  | ecPrivateKey
  /-- Something that is known and neither a certificate nor a private key. -/
  | other
  deriving Repr, DecidableEq

/-- The kind that a label names. Sections under other labels are passed over. -/
def Kind.ofLabel? (label : String) : Option Kind :=
  match label with
  | "CERTIFICATE" => some certificate
  | "PRIVATE KEY" => some privateKey
  | "RSA PRIVATE KEY" => some rsaPrivateKey
  | "EC PRIVATE KEY" => some ecPrivateKey
  | "PUBLIC KEY" => some other
  | "X509 CRL" => some other
  | "CERTIFICATE REQUEST" => some other
  | "ECHCONFIG" => some other
  | _ => none

/-- Whether a key is of a kind that a client can sign in with. -/
def Kind.isPrivateKey (kind : Kind) : Bool :=
  kind == privateKey || kind == rsaPrivateKey || kind == ecPrivateKey

inductive Error where
  | illegalStart
  | missingEnd
  | malformedContent
  deriving Repr, DecidableEq

def isLineEnd (b : UInt8) : Bool := b == Ascii.lineFeed || b == Ascii.carriageReturn

/-- The lines of a text, without what ends them. -/
def lines : Bytes → List Bytes
  | [] => [[]]
  | b :: rest =>
    if isLineEnd b then [] :: lines rest
    else
      match lines rest with
      | first :: others => (b :: first) :: others
      | [] => [[b]]

/-- The marks in front of and behind labels. -/
def dashes : Bytes := List.replicate 5 Ascii.minus

def beginMark : Bytes := dashes ++ Text.Utf8.encode "BEGIN "

def endMark : Bytes := dashes ++ Text.Utf8.encode "END "

/-- The label on the first line of a section, after its opening mark: exactly five dashes follow it, and
blanks may follow those. -/
def label? (text : Bytes) : Option Bytes :=
  let reversed := text.reverse
  let closing := reversed.takeWhile fun b => b == Ascii.minus || b == 32
  if closing.count Ascii.minus = 5 then
    some ((reversed.drop closing.length).reverse ++ (closing.reverse.takeWhile (· == 32)))
  else none

/-- A section that is being read: its label, and its content so far. -/
structure Open where
  label : Bytes
  content : Bytes

/-- The bytes that the content of a section writes. -/
def content? (content : Bytes) : Option Bytes :=
  (Base64.decode (content.filter fun b => b != 32 && b != 9)).toOption

/-- The sections of lines, in their order. -/
def sectionsOf : (opened : Option Open) → List Bytes → Except Error (List (Kind × Bytes))
  | none, [] => .ok []
  | some _, [] => .error .missingEnd
  | opened, line :: rest =>
    match beginMark.isPrefixOf? line, opened with
    | some text, _ =>
      match label? text with
      | some label => sectionsOf (some ⟨label, (opened.map (·.content)).getD []⟩) rest
      | none => .error .illegalStart
    | none, none => sectionsOf none rest
    | none, some current =>
      if (endMark ++ current.label ++ dashes).isPrefixOf line then
        match (Text.Utf8.decode? current.label).bind Kind.ofLabel? with
        | none => sectionsOf none rest
        | some kind =>
          match content? current.content with
          | none => .error .malformedContent
          | some content => do return (kind, content) :: (← sectionsOf none rest)
      else sectionsOf (some { current with content := current.content ++ line }) rest

def sections (text : Bytes) : Except Error (List (Kind × Bytes)) := sectionsOf none (lines text)

end EntitlementRules.Pem
