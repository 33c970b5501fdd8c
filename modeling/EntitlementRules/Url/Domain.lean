import EntitlementRules.Unicode.Direction
import EntitlementRules.Unicode.DomainMapping
import EntitlementRules.Unicode.Joining
import EntitlementRules.Unicode.Mark
import EntitlementRules.Url.Punycode

/-! Names of hosts: the one form in which a name is compared and sent. It is ASCII text; a label with other
characters is written in Punycode behind `xn--`. -/
namespace EntitlementRules.Domain

/-- The characters that no name holds once it is in its form: controls, signs that part a URL, and capital
letters. -/
def isForbidden (c : Char) : Bool :=
  c ≤ ' ' || c == '\x7f' || "%#/:<>?@[\\]^|".toList.contains c || ('A' ≤ c && c ≤ 'Z')

/-- The characters of a name, with letters in lower case and each character as itself. -/
def bring? (text : List Char) : Option (List Char) :=
  if text.all Punycode.isAscii then some (text.map Char.toLower)
  else (Unicode.mapped? text).map Unicode.compositionForm

def labels : List Char → List (List Char)
  | [] => [[]]
  | c :: rest =>
    match c, labels rest with
    | '.', others => [] :: others
    | c, first :: others => (c :: first) :: others
    | c, [] => [[c]]

def encodingMark : List Char := ['x', 'n', '-', '-']

/-- The most characters of a label that are encoded, and the most that are decoded. -/
def encodingLimit : Nat := 1000

def decodingLimit : Nat := 2000

/-- The text behind an encoded label. It must be in the form that names are brought to. -/
def decodeLabel? (encoded : List Char) : Option (List Char) := do
  if decodingLimit < encoded.length then none
  let text ← Punycode.decode? encoded
  if text.all Punycode.isAscii then none
  if text.any fun c => Unicode.fate c != .kept then none
  if Unicode.compositionForm text != text then none
  return text

/-- The characters that a label stands for. -/
def read? (label : List Char) : Option (List Char) :=
  match encodingMark.isPrefixOf? label with
  | some encoded => decodeLabel? encoded
  | none => some label

/-- Whether a label of any characters is well formed. -/
def isLabel (label : List Char) : Bool :=
  !label.head?.any Unicode.isMark && Unicode.joinersFit [] label

/-- The form in which a label is sent. What is written reads back. -/
def write? (label : List Char) : Option (List Char) :=
  let written := encodingMark ++ Punycode.encode label
  if label.all Punycode.isAscii then some label
  else if label.length ≤ encodingLimit ∧ read? written = some label then some written
  else none

/-- Whether any label has characters that are written from right to left. -/
def isTurned (labels : List (List Char)) : Bool :=
  labels.any fun label => label.any fun c => (Unicode.direction c).turns

def toAscii? (text : String) : Option String := do
  let brought ← bring? text.toList
  if brought.any isForbidden then none
  let labels ← (labels brought).mapM read?
  if !labels.all isLabel then none
  if isTurned labels && !labels.all Unicode.isDirected then none
  let written ← labels.mapM write?
  return ".".intercalate (written.map String.ofList)

end EntitlementRules.Domain
