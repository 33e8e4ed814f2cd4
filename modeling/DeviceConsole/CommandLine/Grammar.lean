import DeviceConsole.Command.Basic
import DeviceConsole.CommandLine.Given

/-! The commands of the command line: a group, then a form in the group, each with the options and
operands it takes and the command it stands for. -/
namespace DeviceConsole.CommandLine

/-- What stands behind a command without an option's name. -/
inductive Operands where
  /-- One operand for each check. -/
  | each (checks : List (String → Bool))
  | many

def Operands.accepts (os : Operands) (place : Nat) (s : String) : Bool :=
  match os with
  | each checks => (checks[place]?.map fun check => check s).getD false
  | many => true

structure Form where
  /-- The name, then the other names it goes by. -/
  names : List String
  operands : Operands := .each []
  options : List Opt := []
  /-- The command that is meant, `none` where something is missing or does not go together. -/
  meaning : Given → Option Command

structure Group where
  names : List String
  forms : List Form

def isText (_ : String) : Bool := true

def isId (s : String) : Bool := (id? s).isSome

/-! ### Devices -/

def provision? (g : Given) : Option BackendCommand :=
  if g.operands.isEmpty then none else some (.setProvisioned g.operands true)

def setProvisioned? (g : Given) : Option BackendCommand := do
  let provisioned ← g.required? .provisioned Text.bool?
  if g.operands.isEmpty then none else some (.setProvisioned g.operands provisioned)

/-- Either devices, or all. -/
def toggle? (g : Given) : Option BackendCommand :=
  match g.operands.isEmpty, g.has .all with
  | true, true => some .toggleAllDevices
  | false, false => some (.toggleDevices g.operands)
  | _, _ => none

def devices : Group :=
  { names := ["devices", "dev", "d"]
    forms := [
      { names := ["list", "ls"], meaning := fun _ => some (.backend .listDevices) },
      { names := ["provision"], operands := .many
        meaning := fun g => .backend <$> provision? g },
      { names := ["set"], operands := .many, options := [.provisioned]
        meaning := fun g => .backend <$> setProvisioned? g },
      { names := ["toggle"], operands := .many, options := [.all]
        meaning := fun g => .backend <$> toggle? g }] }

/-! ### Credential profiles -/

def oneId? (g : Given) : Option Int64 :=
  match g.operands with
  | [s] => id? s
  | _ => none

def credentialForm? (g : Given) : Option CredentialForm := do
  some
    { hostname := ← g.value? .hostname, port := (g.value? .port).getD "22"
      password := g.value? .password }

def updateCredential? (g : Given) : Option BackendCommand := do
  some (.updateCredential (← oneId? g) (← credentialForm? g))

def credentials : Group :=
  { names := ["credentials", "cred"]
    forms := [
      { names := ["list", "ls"], meaning := fun _ => some (.backend .listCredentials) },
      { names := ["create"], options := [.hostname, .port, .password]
        meaning := fun g => (fun form => .backend (.createCredential form)) <$> credentialForm? g },
      { names := ["update"], operands := .each [isId], options := [.hostname, .port, .password]
        meaning := fun g => .backend <$> updateCredential? g },
      { names := ["delete", "rm"], operands := .each [isId]
        meaning := fun g => (fun id => .backend (.deleteCredential id)) <$> oneId? g }] }

/-! ### Discovery profiles -/

def modeOf (g : Given) : TargetMode := if g.has .cidr then .cidr else .list

def credentialIds? (g : Given) : Option (List Int64) :=
  ((g.values? .credential).mapM ids?).map List.flatten

def createDiscovery? (g : Given) : Option BackendCommand := do
  some (.createDiscovery (modeOf g) (← g.value? .targets) (← credentialIds? g))

/-- The mode of the targets means nothing without targets. -/
def updateDiscovery? (g : Given) : Option BackendCommand := do
  let id ← oneId? g
  let ids ← credentialIds? g
  match g.value? .targets with
  | some text => some (.updateDiscovery id (some (modeOf g, text)) ids)
  | none => if g.has .cidr then none else some (.updateDiscovery id none ids)

def discovery : Group :=
  let ofId (f : Int64 → BackendCommand) (g : Given) : Option Command :=
    (fun id => .backend (f id)) <$> oneId? g
  { names := ["discovery", "disc"]
    forms := [
      { names := ["list", "ls"], meaning := fun _ => some (.backend .listDiscovery) },
      { names := ["get"], operands := .each [isId], options := [.expand]
        meaning := fun g => ofId (fun id => .getDiscovery id (g.has .expand)) g },
      { names := ["create"], options := [.targets, .cidr, .credential]
        meaning := fun g => .backend <$> createDiscovery? g },
      { names := ["update"], operands := .each [isId], options := [.targets, .cidr, .credential]
        meaning := fun g => .backend <$> updateDiscovery? g },
      { names := ["delete", "rm"], operands := .each [isId], meaning := ofId .deleteDiscovery },
      { names := ["run"], operands := .each [isId], meaning := ofId .runDiscovery }] }

/-! ### Targets and telemetry -/

def resolveTargets? (g : Given) : Option TargetsCommand := do
  match g.operands with
  | [text] =>
      some
        { mode := modeOf g, text, expand := g.has .expand
          ceiling := ← g.optional? .ceiling natural? }
  | _ => none

def targets : Group :=
  { names := ["targets"]
    forms := [
      { names := ["resolve"], operands := .each [isText], options := [.cidr, .expand, .ceiling]
        meaning := fun g => .targets <$> resolveTargets? g }] }

def showTelemetry? (g : Given) : Option BackendCommand := do
  match g.operands with
  | [device] =>
      some (.showTelemetry device
        (← g.withDefault? .duration .lastHour DurationPreset.ofText?)
        (← g.withDefault? .aggregation .avg Aggregation.ofText?))
  | _ => none

def telemetry : Group :=
  { names := ["telemetry", "tm"]
    forms := [
      { names := ["show"], operands := .each [isText], options := [.duration, .aggregation]
        meaning := fun g => .backend <$> showTelemetry? g }] }

/-! ### Settings -/

def set? (g : Given) : Option Command :=
  match g.operands with
  | [key, value] => some (.settings (.set key value))
  | _ => none

def use? (g : Given) : Option Command :=
  match g.operands with
  | [name] => some (.settings (.use name))
  | _ => none

def config : Group :=
  { names := ["config"]
    forms := [
      { names := ["init"], meaning := fun _ => some (.settings .init) },
      { names := ["show"], meaning := fun _ => some (.settings .show) },
      { names := ["path"], meaning := fun _ => some (.settings .path) },
      { names := ["set"], operands := .each [isText, isText], meaning := set? },
      { names := ["profiles"], meaning := fun _ => some (.settings .profiles) },
      { names := ["use"], operands := .each [isText], meaning := use? }] }

def groups : List Group := [devices, credentials, discovery, targets, telemetry, config]

def globalOptions? (g : Given) : Option GlobalOptions := do
  some
    { profile := g.value? .profile, server := g.value? .server
      output := ← g.withDefault? .output .table OutputFormat.ofName?
      quiet := g.has .quiet, yes := g.has .yes
      insecure := ← g.withDefault? .insecure false Text.bool?
      timeout := ← g.optional? .timeout natural? }

end DeviceConsole.CommandLine
