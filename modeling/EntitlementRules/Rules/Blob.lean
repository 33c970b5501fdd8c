import EntitlementRules.Rules.Version

/-! Rules blobs: the bytes of a script, the version marker on its first line, and the base64 text in
which it travels. -/
namespace EntitlementRules

/-- A rules script. Only its first line is ever looked into. -/
structure Blob where
  bytes : Bytes
  deriving Repr, DecidableEq

/-- The text form of a blob. It may be wrapped with blanks and need not be well formed. -/
structure EncodedBlob where
  text : String
  deriving Repr, DecidableEq

namespace Blob

/-- What a marker line starts with. -/
def markerStart : String := "//Version: "

/-- The script whose first line marks a version. -/
def withVersion (version : Version) (body : String) : Blob :=
  ⟨Text.Utf8.encode (markerStart ++ version.text ++ "\n" ++ body)⟩

def isEmpty (blob : Blob) : Bool := blob.bytes.isEmpty

def encode (blob : Blob) : EncodedBlob := ⟨Base64.encode blob.bytes⟩

/-- The script as text; malformed parts read as replacement characters. -/
def textLossy (blob : Blob) : String := Text.Utf8.decodeLossy blob.bytes

/-- The bytes before the first line feed. -/
def headBytes (blob : Blob) : Bytes := blob.bytes.takeWhile (· != 10)

/-- A line without the carriage return at its end. -/
def dropReturn (line : Bytes) : Bytes :=
  if line.getLast? = some 13 then line.dropLast else line

/-- The version marked on the first line. Nothing but the version may follow the marker's start. -/
def version? (blob : Blob) : Option Version := do
  let line ← Text.Utf8.decode? (dropReturn blob.headBytes)
  let marker ← Text.after? markerStart line
  if Text.trim marker = marker then (Version.parse marker).toOption else none

/-- The first line as a reader of the text sees it. -/
def firstLine (blob : Blob) : String := Text.firstLine blob.textLossy

/-- The marked version; a blob without one is refused with its first line. -/
def requireVersion (blob : Blob) : Except RulesError Version :=
  match blob.version? with
  | some version => .ok version
  | none => .error (.invalidVersion blob.firstLine)

end Blob

namespace EncodedBlob

/-- No rules: nothing, or nothing but blanks. -/
def isEmpty (encoded : EncodedBlob) : Bool := Text.isBlankText encoded.text

/-- The text without the blanks that may wrap it. -/
def compact (encoded : EncodedBlob) : List Char :=
  encoded.text.toList.filter (!Text.isAsciiBlank ·)

def decode (encoded : EncodedBlob) : Except RulesError Blob :=
  match Base64.decode (Text.Utf8.encode (String.ofList encoded.compact)) with
  | .ok bytes => .ok ⟨bytes⟩
  | .error cause => .error (.malformedBlob cause)

end EncodedBlob

end EntitlementRules
