import EntitlementRules.Files.Tree
import EntitlementRules.Url.Host

/-! What can be wrong with a configuration. All of it is found before any request is sent. -/
namespace EntitlementRules

inductive ServerUrlFault where
  | malformed (error : Url.Error)
  | unsupportedScheme (scheme : String)
  | missingHost
  deriving Repr, DecidableEq

def ServerUrlFault.message : ServerUrlFault → String
  | malformed error => error.message
  | unsupportedScheme scheme => s!"unsupported scheme '{scheme}'"
  | missingHost => "missing host"

/-- Which credentials do not go together. -/
inductive CredentialsFault where
  | userWithCertificate
  | userWithoutPassword
  | passwordWithoutUser
  | keyWithoutCertificate
  deriving Repr, DecidableEq

def CredentialsFault.message : CredentialsFault → String
  | userWithCertificate => "basic auth and client certificate cannot be combined"
  | userWithoutPassword => "a password is required with --username"
  | passwordWithoutUser => "--password requires --username"
  | keyWithoutCertificate => "--client-key requires --client-cert"

inductive ConfigurationError where
  | serverUrl (value : String) (fault : ServerUrlFault)
  /-- Keys of a settings file that have no meaning, in their order. -/
  | unsupportedSettings (path : String) (keys : List String)
  /-- A setting whose value is no truth value. -/
  | invalidSetting (path key : String)
  /-- A settings file that is no configuration text. -/
  | malformedSettings (path : String)
  | unreadableFile (path : String) (error : FileError)
  | credentials (fault : CredentialsFault)
  deriving Repr, DecidableEq

def ConfigurationError.message : ConfigurationError → String
  | serverUrl value fault => s!"invalid server URL '{value}': {fault.message}"
  | unsupportedSettings path keys =>
    let listed := ", ".intercalate keys
    s!"the RC file '{path}' does not support these settings: {listed}"
  | invalidSetting path key => s!"setting '{key}' in '{path}' must be a boolean"
  | malformedSettings path => s!"failed to parse RC file '{path}': TOML parse error"
  | unreadableFile path error => s!"failed to read '{path}': {error.message}"
  | credentials fault => s!"invalid credentials: {fault.message}"

end EntitlementRules
