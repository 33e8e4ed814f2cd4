import DeviceConsole.Command.Format
import DeviceConsole.Target
import DeviceConsole.Telemetry.Window

/-! What an operator can ask for. -/
namespace DeviceConsole

structure GlobalOptions where
  profile : Option String := none
  server : Option String := none
  output : OutputFormat := .table
  quiet : Bool := false
  /-- Goes on without asking for confirmation. -/
  yes : Bool := false
  insecure : Bool := false
  /-- In seconds. -/
  timeout : Option UInt64 := none
deriving DecidableEq, Repr, Inhabited

/-- The fields of a credential form as they are typed. -/
structure CredentialForm where
  hostname : String
  port : String := "22"
  password : Option String := none
deriving DecidableEq, Repr

inductive SettingsCommand where
  | init
  | show
  | path
  | set (key value : String)
  | profiles
  | use (name : String)
deriving DecidableEq, Repr

/-- Resolving targets needs no backend. -/
structure TargetsCommand where
  mode : TargetMode
  text : String
  expand : Bool
  ceiling : Option UInt64
deriving DecidableEq, Repr

inductive BackendCommand where
  | listDevices
  | setProvisioned (devices : List String) (provisioned : Bool)
  | toggleDevices (devices : List String)
  | toggleAllDevices
  | listCredentials
  | createCredential (form : CredentialForm)
  | updateCredential (id : Int64) (form : CredentialForm)
  | deleteCredential (id : Int64)
  | listDiscovery
  | getDiscovery (id : Int64) (expand : Bool)
  | createDiscovery (mode : TargetMode) (targets : String) (credentialIds : List Int64)
  /-- Targets that are not given stay; so do credentials where the list is empty. -/
  | updateDiscovery (id : Int64) (targets : Option (TargetMode × String))
      (credentialIds : List Int64)
  | deleteDiscovery (id : Int64)
  | runDiscovery (id : Int64)
  | showTelemetry (device : String) (duration : DurationPreset) (aggregation : Aggregation)
deriving DecidableEq, Repr

inductive Command where
  | settings (command : SettingsCommand)
  | targets (command : TargetsCommand)
  | backend (command : BackendCommand)
deriving DecidableEq, Repr

/-- A command and how it is to be run. -/
structure Invocation where
  options : GlobalOptions
  command : Command
deriving DecidableEq, Repr

end DeviceConsole
