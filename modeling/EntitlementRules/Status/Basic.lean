import EntitlementRules.Json.Value
import EntitlementRules.Rules.Version

/-! The status that a server reports of itself, and its JSON form. -/
namespace EntitlementRules

/-- A server's status at one moment. Only the rules version is always there; fields without a meaning of
their own are kept as they came. -/
structure Status where
  rulesVersion : String
  rulesSource : Option String := none
  result : Option Bool := none
  version : Option String := none
  release : Option String := none
  standalone : Option Bool := none
  time : Option String := none
  capabilities : List String := []
  extra : Json.Members := []
  deriving Repr, Inhabited

namespace Status

/-- The reported rules version as a version, for comparisons. -/
def parsedVersion (status : Status) : Except RulesError Version :=
  Version.parse status.rulesVersion

/-- A member for a field that is present. -/
def present {α : Type} (name : String) (encode : α → Json) : Option α → List (String × Json)
  | some value => [(name, encode value)]
  | none => []

/-- The fields that are present, in their fixed order, followed by the others. -/
def members (status : Status) : List (String × Json) :=
  ("rulesVersion", .string status.rulesVersion)
    :: present "rulesSource" .string status.rulesSource
    ++ present "result" .bool status.result
    ++ present "version" .string status.version
    ++ present "release" .string status.release
    ++ present "standalone" .bool status.standalone
    ++ present "timeUTC" .string status.time
    ++ (if status.capabilities.isEmpty then []
        else [("managerCapabilities", .array (status.capabilities.map .string))])
    ++ status.extra

def toJson (status : Status) : Json := .object status.members

end Status

end EntitlementRules
