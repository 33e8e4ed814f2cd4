import DeviceConsole.Dictionary
import DeviceConsole.Json.Decode
import DeviceConsole.Settings.Error

/-! Stored settings: named backend profiles, and the defaults that fill what a profile leaves
open. -/
namespace DeviceConsole

structure Defaults where
  output : String := "table"
  timeout : UInt64 := 30
  expansionCeiling : UInt64 := 4096
  insecure : Bool := false
deriving DecidableEq, Repr, Inhabited

structure Profile where
  server : String := ""
  timeout : Option UInt64 := none
  expansionCeiling : Option UInt64 := none
  insecure : Option Bool := none
  caCert : Option String := none
  diskCounter : Option UInt16 := none
  cpuCounter : Option UInt16 := none
deriving DecidableEq, Repr, Inhabited

structure Settings where
  defaultProfile : Option String := some "default"
  defaults : Defaults := {}
  profiles : Dictionary Profile := .empty
deriving DecidableEq, Inhabited

namespace Defaults

def fields : List String := ["output", "timeout", "expansion_ceiling", "insecure"]

def entries (d : Defaults) : List (String × Json) :=
  [("output", .str d.output), ("timeout", .ofNat d.timeout.toNat),
    ("expansion_ceiling", .ofNat d.expansionCeiling.toNat), ("insecure", .bool d.insecure)]

def toJson (d : Defaults) : Json := .obj d.entries

def ofJson? (j : Json) : Option Defaults := do
  match ← j.record? fields with
  | [output, timeout, ceiling, insecure] =>
      some
        { output := ← Json.withDefault? Json.toText? "table" output
          timeout := ← Json.withDefault? Json.toUInt64? 30 timeout
          expansionCeiling := ← Json.withDefault? Json.toUInt64? 4096 ceiling
          insecure := ← Json.withDefault? Json.toBool? false insecure }
  | _ => none

end Defaults

namespace Profile

def fields : List String :=
  ["server", "timeout", "expansion_ceiling", "insecure", "ca_cert", "disk_counter", "cpu_counter"]

/-- What is set, in the order of the fields. -/
def entries (p : Profile) : List (String × Json) :=
  [some ("server", .str p.server),
    p.timeout.map fun n => ("timeout", .ofNat n.toNat),
    p.expansionCeiling.map fun n => ("expansion_ceiling", .ofNat n.toNat),
    p.insecure.map fun b => ("insecure", .bool b),
    p.caCert.map fun s => ("ca_cert", .str s),
    p.diskCounter.map fun n => ("disk_counter", .ofNat n.toNat),
    p.cpuCounter.map fun n => ("cpu_counter", .ofNat n.toNat)].filterMap id

def toJson (p : Profile) : Json := .obj p.entries

def optional? {α : Type} (decode : Json → Option α) : Option Json → Option (Option α) :=
  Json.withDefault? (Json.toOption? decode) none

/-- Only the server has to be there. -/
def ofJson? (j : Json) : Option Profile := do
  match ← j.record? fields with
  | [server, timeout, ceiling, insecure, caCert, disk, cpu] =>
      some
        { server := ← Json.required? Json.toText? server
          timeout := ← optional? Json.toUInt64? timeout
          expansionCeiling := ← optional? Json.toUInt64? ceiling
          insecure := ← optional? Json.toBool? insecure
          caCert := ← optional? Json.toText? caCert
          diskCounter := ← optional? Json.toUInt16? disk
          cpuCounter := ← optional? Json.toUInt16? cpu }
  | _ => none

end Profile

namespace Settings

def profile (s : Settings) (name : String) : Except SettingsError Profile :=
  match s.profiles.get? name with
  | some p => .ok p
  | none => .error (.unknownProfile name)

/-- The name asked for, else the stored one, else `default`. -/
def activeProfile (s : Settings) (asked : Option String) : String :=
  (asked.or s.defaultProfile).getD "default"

def available (s : Settings) : String :=
  if s.profiles.isEmpty then "(none)" else ", ".intercalate s.profiles.keys

def toJson (s : Settings) : Json :=
  .obj [("default_profile", .ofOption .str s.defaultProfile), ("defaults", s.defaults.toJson),
    ("profiles", .obj (s.profiles.entries.map fun e => (e.1, e.2.toJson)))]

/-- A record written as an array may be longer than the record here. -/
def shortened (count : Nat) : Json → Json
  | .arr items => .arr (items.take count)
  | j => j

def profilesOfJson? : Json → Option (Dictionary Profile)
  | .obj entries =>
      (entries.mapM fun e =>
        (Profile.ofJson? (shortened Profile.fields.length e.2)).map (e.1, ·)).map Dictionary.ofList
  | _ => none

def ofJson? (j : Json) : Option Settings := do
  match ← j.record? ["default_profile", "defaults", "profiles"] with
  | [name, defaults, profiles] =>
      some
        { defaultProfile := ← Profile.optional? Json.toText? name
          defaults :=
            ← Json.withDefault? (fun j => Defaults.ofJson? (shortened Defaults.fields.length j)) {}
              defaults
          profiles := ← Json.withDefault? profilesOfJson? .empty profiles }
  | _ => none

end Settings
end DeviceConsole
