import EntitlementRules.Rules.Error
import EntitlementRules.Text.Blank
import EntitlementRules.Text.Digits

/-! Rules versions: two numbers of 32 bits, ordered as numbers and written `MAJOR.MINOR`. -/
namespace EntitlementRules

/-- A rules version. The major number is compared first. -/
structure Version where
  major : UInt32
  minor : UInt32
  deriving Repr, DecidableEq, Ord

namespace Version

/-- How far a synthetic version lies above the one it follows. -/
def syntheticOffset : UInt32 := 10000

def text (version : Version) : String :=
  s!"{version.major.toNat}.{version.minor.toNat}"

/-- The number that a text of one or more digits writes, if it fits. -/
def component? (digits : List Char) : Option UInt32 :=
  (Text.decimalBelow? UInt32.size digits).map UInt32.ofNat

/-- The version that `MAJOR.MINOR` writes. -/
def ofChars? (chars : List Char) : Option Version :=
  match chars.span (· != '.') with
  | (major, _ :: minor) => do return ⟨← component? major, ← component? minor⟩
  | (_, []) => none

/-- Reads a version, with any blanks around it; a refusal quotes the whole text. -/
def parse (text : String) : Except RulesError Version :=
  match ofChars? (Text.trim text).toList with
  | some version => .ok version
  | none => .error (.invalidVersion text)

/-- The version with the same major number and a minor number that lies higher by an offset. -/
def withMinorOffset (version : Version) (offset : UInt32) : Except RulesError Version :=
  if version.minor.toNat + offset.toNat < UInt32.size
  then .ok ⟨version.major, version.minor + offset⟩
  else .error (.invalidVersion s!"{version.text}+{offset.toNat}")

/-- A version above this one and above all that a server reaches from it by small steps. -/
def successor (version : Version) : Except RulesError Version :=
  version.withMinorOffset syntheticOffset

end Version

end EntitlementRules
