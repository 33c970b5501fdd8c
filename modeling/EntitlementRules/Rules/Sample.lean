import EntitlementRules.Rules.Blob

/-! Sample rules: the ruleset that is built into a server and one that an operator may have put in
its place. -/
namespace EntitlementRules.Sample

/-- The version of the built-in rules unless a server is set up with another. -/
def defaultVersion : Version := ⟨5, 3⟩

def builtinRules (version : Version) : Blob :=
  Blob.withVersion version "var builtin = true;\n"

/-- A custom ruleset that may be active before a verification run. -/
def operatorRules : Blob :=
  Blob.withVersion ⟨5, 7⟩ "var operatorPolicy = 'strict';\n"

end EntitlementRules.Sample
