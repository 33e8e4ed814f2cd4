/-! What can be wrong with stored settings. -/
namespace DeviceConsole

inductive SettingsError where
  | invalid (field reason : String)
  | unknownProfile (name : String)
  /-- Some layer is no settings, or together they are none. -/
  | unreadable
  /-- A number does not fit the file's integers. -/
  | unstorable
  | file (message : String)
deriving DecidableEq, Repr

def SettingsError.message : SettingsError → String
  | invalid field reason => s!"invalid {field}: {reason}"
  | unknownProfile name => s!"profile '{name}' not found in config"
  | unreadable => "config loading failed"
  | unstorable => "failed to serialize config"
  | file message => s!"IO error: {message}"

end DeviceConsole
