import EntitlementRules.Configuration.Error
import EntitlementRules.Log.Event
import EntitlementRules.Toml.Reader

/-! Settings of what a program tells of its work. They come in layers, the upper ones stronger. -/
namespace EntitlementRules

structure SettingsLayer where
  verbose : Option Bool := none
  debug : Option Bool := none
  deriving Repr, DecidableEq

/-- The settings that all layers together come to. -/
structure Settings where
  verbose : Bool
  debug : Bool
  deriving Repr, DecidableEq

/-- How much a program tells: all it does, its progress, or only what is amiss. -/
def Settings.logLevel (settings : Settings) : Log.Level :=
  if settings.debug then .debug else if settings.verbose then .info else .warn

namespace SettingsLayer

def overlay (lower upper : SettingsLayer) : SettingsLayer where
  verbose := upper.verbose <|> lower.verbose
  debug := upper.debug <|> lower.debug

/-- What no layer sets is off. -/
def settle (layer : SettingsLayer) : Settings where
  verbose := layer.verbose.getD false
  debug := layer.debug.getD false

/-- A layer with the setting of a key, where the key has a meaning. -/
def set? (layer : SettingsLayer) (key : String) (value : Bool) : Option SettingsLayer :=
  match key with
  | "verbose" => some { layer with verbose := some value }
  | "debug" => some { layer with debug := some value }
  | _ => none

def isSupported (key : String) : Bool := key == "verbose" || key == "debug"

/-- The layer that members set, over a given one. A supported key without a truth value ends the reading;
keys without a meaning are gathered. -/
def ofMembers (path : String) : (layer : SettingsLayer) → (unsupported : List String) → Toml.Table →
    Except ConfigurationError (SettingsLayer × List String)
  | layer, unsupported, [] => .ok (layer, unsupported)
  | layer, unsupported, (key, value) :: rest =>
    if isSupported key then
      match value.bool?.bind (layer.set? key) with
      | some layer => ofMembers path layer unsupported rest
      | none => .error (.invalidSetting path key)
    else ofMembers path layer (unsupported ++ [key]) rest

/-- The layer that a table sets. The path is the one of its file. Unsupported keys are told in ascending
order, which is the order of the members: a reader of TOML leaves a table sorted by its keys. -/
def ofTable (path : String) (table : Toml.Table) : Except ConfigurationError SettingsLayer := do
  match ← ofMembers path {} [] table with
  | (layer, []) => return layer
  | (_, unsupported) => throw (.unsupportedSettings path unsupported)

/-- The layer that the text of a file sets. -/
def ofText (path content : String) : Except ConfigurationError SettingsLayer :=
  match Toml.parse content with
  | some table => ofTable path table
  | none => .error (.malformedSettings path)

end SettingsLayer

/-- A settings file that was looked for. One that is not there sets nothing. -/
structure SettingsFile where
  path : String
  found : Bool
  layer : SettingsLayer
  deriving Repr, DecidableEq

def SettingsFile.load (files : Files) (path : String) : Except ConfigurationError SettingsFile :=
  match files.stat path with
  | .error _ => .ok ⟨path, false, {}⟩
  | .ok () => do
    let content ← (files.readText path).mapError (.unreadableFile path)
    return ⟨path, true, ← SettingsLayer.ofText path content⟩

end EntitlementRules
