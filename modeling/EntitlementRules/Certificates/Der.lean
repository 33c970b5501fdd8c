import EntitlementRules.Text.Utf8

/-! DER: values as a tag, a length and content, and the form of certificates and keys in it. -/
namespace EntitlementRules.Der

/-- The number that bytes write, the first one highest. -/
def number (bytes : Bytes) : Nat := bytes.foldl (fun value b => value * 256 + b.toNat) 0

/-- The length at the start of a text, in its shortest form, with what follows. -/
def length? : Bytes → Option (Nat × Bytes)
  | [] => none
  | b :: rest =>
    if b < 128 then some (b.toNat, rest)
    else
      let count := b.toNat - 128
      let value := number (rest.take count)
      if count = 0 || 4 < count || rest.length < count then none
      else if value < 128 || value < Nat.pow 256 (count - 1) then none
      else some (value, rest.drop count)

/-- A value at the start of a text: its tag, its content, and what follows. -/
def value? : Bytes → Option (UInt8 × Bytes × Bytes)
  | [] => none
  | tag :: rest => do
    let (length, rest) ← length? rest
    if rest.length < length || tag.toNat % 32 = 31 then none
    else some (tag, rest.take length, rest.drop length)

/-- The content of a value of a certain tag at the start of a text, with what follows. -/
def expect? (tag : UInt8) (text : Bytes) : Option (Bytes × Bytes) := do
  let (found, content, rest) ← value? text
  if found = tag then some (content, rest) else none

def integer : UInt8 := 0x02
def bitString : UInt8 := 0x03
def octetString : UInt8 := 0x04
def objectName : UInt8 := 0x06
def bool : UInt8 := 0x01
def sequence : UInt8 := 0x30
/-- The version of a certificate. -/
def versionTag : UInt8 := 0xA0
/-- The extensions of a certificate. -/
def extensionsTag : UInt8 := 0xA3

/-- Whether a text is one value of a certain tag. -/
def isWhole (tag : UInt8) (text : Bytes) : Bool :=
  match expect? tag text with
  | some (_, rest) => rest.isEmpty
  | none => false

/-- Whether the content of an extension is a name, a truth value or none, and bytes. -/
def isExtension (content : Bytes) : Bool :=
  match expect? objectName content with
  | none => false
  | some (_, rest) =>
    match expect? bool rest with
    | some (_, rest) => isWhole octetString rest
    | none => isWhole octetString rest

/-- Whether a text is a sequence of so many extensions at most. -/
def areExtensions : (most : Nat) → Bytes → Bool
  | _, [] => true
  | 0, _ :: _ => false
  | most + 1, text =>
    match expect? sequence text with
    | some (content, rest) => isExtension content && areExtensions most rest
    | none => false

/-- Whether a text is the extensions of a certificate, or nothing. -/
def isExtensionsPart (text : Bytes) : Bool :=
  if text.isEmpty then true
  else
    match expect? extensionsTag text with
    | some (content, []) =>
      match expect? sequence content with
      | some (extensions, []) => areExtensions extensions.length extensions
      | _ => false
    | _ => false

/-- What follows so many sequences. -/
def afterSequences : (count : Nat) → Bytes → Option Bytes
  | 0, text => some text
  | count + 1, text => (expect? sequence text).bind fun (_, rest) => afterSequences count rest

/-- Whether the content of a certificate's first part has its form: version, serial number, algorithm,
issuer, validity, subject, key, and extensions. The first version has no version field and no
extensions. -/
def isCertificateBody (algorithm body : Bytes) : Bool :=
  let versioned := expect? versionTag body
  let numbered := match versioned with
    | some (version, rest) =>
      if version = [integer, 1, 2] then some rest else none
    | none => some body
  match numbered.bind (expect? integer) with
  | none => false
  | some (_, rest) =>
    match expect? sequence rest with
    | none => false
    | some (inner, rest) =>
      match afterSequences 4 rest with
      | none => false
      | some rest =>
        if versioned.isSome then inner == algorithm && isExtensionsPart rest else rest.isEmpty

/-- Whether a text has the form of a certificate. -/
def isCertificate (text : Bytes) : Bool :=
  match expect? sequence text with
  | some (content, []) =>
    match expect? sequence content with
    | none => false
    | some (body, rest) =>
      match expect? sequence rest with
      | none => false
      | some (algorithm, rest) => isWhole bitString rest && isCertificateBody algorithm body
  | _ => false

/-- Whether a text has the form of a private key. -/
def isPrivateKey (text : Bytes) : Bool :=
  match expect? sequence text with
  | some (content, []) => (expect? integer content).isSome
  | _ => false

end EntitlementRules.Der
