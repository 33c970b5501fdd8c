import EntitlementRules.Configuration.Connection
import EntitlementRules.Proofs.Configuration.Settings

/-! Faults of a configuration: what is wrong with a settings file or with the options of a connection
exactly where it is refused. -/
namespace EntitlementRules

/-! ## Settings -/

namespace SettingsFile

variable {files : Files} {path : String}

end SettingsFile

/-! ## Connections -/

namespace Connection

variable {files : Files} {options : ConnectionOptions}

/-- The name with which a user signs in; a blank one is none. -/
def Names (options : ConnectionOptions) (user : String) : Prop :=
  options.username = some user ∧ Text.isBlankText user = false

theorem filter_eq_some_iff {user : String} :
    options.username.filter (!Text.isBlankText ·) = some user ↔ Names options user := by
  simp [Names, Option.filter_eq_some_iff]

theorem parts_of_resolve {connection : Connection} (resolved : resolve files options = .ok connection) :
    contextUrl options.serverUrl = .ok connection.context ∧
      resolveServerCa files options.serverCa = .ok connection.serverCa ∧
      resolveCredentials files options = .ok connection.credentials ∧
      connection.insecure = options.insecure.getD connection.context.isLoopback := by
  obtain ⟨context, placed, resolved⟩ := bind_eq_ok_iff.mp resolved
  obtain ⟨serverCa, trusted, resolved⟩ := bind_eq_ok_iff.mp resolved
  obtain ⟨credentials, signed, resolved⟩ := bind_eq_ok_iff.mp resolved
  cases resolved
  exact ⟨placed, trusted, signed, rfl⟩

end Connection

end EntitlementRules
