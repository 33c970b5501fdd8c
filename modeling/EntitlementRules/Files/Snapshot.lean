import EntitlementRules.Files.Tree

/-! Snapshots: what was found at some paths at one time. -/
namespace EntitlementRules.Files

structure Finding where
  path : String
  stat : Except FileError Unit
  content : Except FileError Bytes

/-- The files that findings show. All else is taken to be missing. -/
def ofFindings (findings : List Finding) : Files where
  stat path := match findings.find? (·.path == path) with
    | some finding => finding.stat
    | none => .error .notFound
  read path := match findings.find? (·.path == path) with
    | some finding => finding.content
    | none => .error .notFound

end EntitlementRules.Files
