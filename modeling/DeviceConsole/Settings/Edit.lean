import DeviceConsole.Decimal.Integer
import DeviceConsole.Settings.Basic
import DeviceConsole.Text.LowerCase

/-! Changing one setting of a profile. -/
namespace DeviceConsole

/-- What can be set, and what each value has to be. -/
inductive SettingKey where
  | server | timeout | expansionCeiling | insecure | caCert | diskCounter | cpuCounter
deriving DecidableEq, Repr

namespace SettingKey

def all : List SettingKey :=
  [server, timeout, expansionCeiling, insecure, caCert, diskCounter, cpuCounter]

/-- The name in the file. -/
def name : SettingKey → String
  | server => "server"
  | timeout => "timeout"
  | expansionCeiling => "expansion_ceiling"
  | insecure => "insecure"
  | caCert => "ca_cert"
  | diskCounter => "disk_counter"
  | cpuCounter => "cpu_counter"

def hyphenated (k : SettingKey) : String :=
  String.ofList (k.name.toList.map fun c => if c = '_' then '-' else c)

def ofName? (s : String) : Option SettingKey :=
  all.find? fun k => k.name = s || k.hyphenated = s

def wanted : SettingKey → String
  | server | caCert => "a text"
  | timeout => "a number (seconds)"
  | expansionCeiling => "a number of addresses"
  | insecure => "'true' or 'false'"
  | diskCounter | cpuCounter => "a counter id (0-65535)"

end SettingKey

namespace Profile

/-- The profile with one value replaced, `none` where the text is no such value. -/
def replace? (p : Profile) (key : SettingKey) (value : String) : Option Profile :=
  match key with
  | .server => some { p with server := value }
  | .timeout =>
      (Decimal.readUInt64? value.toList).map fun n => { p with timeout := some n }
  | .expansionCeiling =>
      (Decimal.readUInt64? value.toList).map fun n => { p with expansionCeiling := some n }
  | .insecure => (Text.bool? value).map fun b => { p with insecure := some b }
  | .caCert => some { p with caCert := some value }
  | .diskCounter =>
      (Decimal.readUInt16? value.toList).map fun n => { p with diskCounter := some n }
  | .cpuCounter =>
      (Decimal.readUInt16? value.toList).map fun n => { p with cpuCounter := some n }

def unknownKey (key : String) : SettingsError :=
  .invalid key ("unknown config key '" ++ key ++ "'. Valid keys: " ++
    ", ".intercalate (SettingKey.all.map SettingKey.name))

/-- An error names the key as it was typed. -/
def set (p : Profile) (key value : String) : Except SettingsError Profile :=
  match SettingKey.ofName? key with
  | none => .error (unknownKey key)
  | some k =>
      match p.replace? k value with
      | some p => .ok p
      | none => .error (.invalid key ("must be " ++ k.wanted))

end Profile

/-- Changes one value of a profile; a profile that is not there starts out empty. -/
def Settings.set (s : Settings) (name key value : String) : Except SettingsError Settings :=
  (((s.profiles.get? name).getD {}).set key value).map fun p =>
    { s with profiles := s.profiles.insert name p }

end DeviceConsole
