import DeviceConsole.Command.Settings

/-! Commands that talk to a backend. -/
namespace DeviceConsole.BackendCommand

/-- A call of the console, its failure told to the operator. -/
def ask {α : Type} (x : Call ConsoleError α) : Call CommandError α := x.adapt .ofConsole

def require {α : Type} (x : Except ConsoleError α) : Call CommandError α :=
  Call.ofExcept (x.mapError .ofConsole)

/-- Device arguments, each a list with commas of its own. -/
def addressesOf (devices : List String) : Except CommandError (List Address) :=
  match (TargetSpec.ofInput .list (",".intercalate devices)).resolve with
  | .error e => .error (.ofConsole e)
  | .ok (.addresses set) =>
      if set.isEmpty then
        .error (.invalidValue "devices" "at least one device address is required")
      else .ok set.elems
  | .ok (.block _) =>
      .error (.invalidValue "devices" "at least one device address is required")

def provisioningNote (sent : Nat) : String :=
  if sent = 0 then "Nothing to change" else s!"Provisioning updated for {sent} device(s)"

/-- An empty selection is an error before the question whether to go on. -/
def flip (c : Console) (g : GlobalOptions) (s : Selection) : Call CommandError Report := do
  let _ ← require s.request
  Call.ofExcept g.confirm
  let sent ← ask (ExceptT.mk ((·.1) <$> c.submitProvisioning s))
  return g.note (provisioningNote sent)

/-- A password that is not given cannot be asked for. One that is typed at a terminal is left out;
it would stand in the form like one that is given. -/
def draftOf (form : CredentialForm) : Except CommandError CredentialDraft :=
  match form.password with
  | some password => (CredentialDraft.ofForm form.hostname password form.port).mapError .ofConsole
  | none =>
      .error (.invalidValue "interactive"
        "prompt failed: No such device or address (os error 6)")

def findProfile (c : Console) (id : Int64) : Call CommandError DiscoveryProfile := do
  match (← ask c.listDiscovery).find? fun p => p.id = id with
  | some p => return p
  | none => throw (.notFound "discovery profile" (toString id) "discovery list")

def submit (c : Console) (g : GlobalOptions) (action : String) (draft : DiscoveryDraft) :
    Call CommandError Report := do
  let s ← ask (c.submitDiscovery draft)
  return g.note ("Discovery profile " ++ action ++ ": " ++ s.targets.text ++ " (" ++
    toString s.targets.size ++ " target(s))")

/-- A change of a stored profile. -/
def revised (p : DiscoveryProfile) (targets : Option (TargetMode × String))
    (credentialIds : List Int64) : DiscoveryDraft :=
  let draft := DiscoveryDraft.ofProfile p
  let draft := match targets with
    | some (mode, text) => (draft.setMode mode).editTargets text
    | none => draft
  if credentialIds.isEmpty then draft else draft.setCredentials credentialIds

/-- One failed counter is part of the report; both fail the command. -/
def telemetryFailure? (t : DeviceTelemetry) : Option CommandError :=
  match t.disk, t.cpu with
  | .error e, .error _ => some (.ofConsole e)
  | _, _ => none

def run (c : Console) (g : GlobalOptions) (now : Int64) :
    BackendCommand → Call CommandError Report
  | listDevices => return g.display (View.devices (← ask c.listDevices))
  | setProvisioned devices provisioned => do
      let addresses ← Call.ofExcept (addressesOf devices)
      let sent ← ask (c.setProvisioned addresses provisioned)
      return g.note (provisioningNote sent)
  | toggleDevices devices => do
      let addresses ← Call.ofExcept (addressesOf devices)
      flip c g (addresses.foldl Selection.toggle .empty)
  | toggleAllDevices => do
      let devices ← ask c.listDevices
      flip c g (Selection.empty.toggleAll (devices.map (·.address)))
  | listCredentials => return g.display (View.credentials (← ask c.listCredentials))
  | createCredential form => do
      let draft ← Call.ofExcept (draftOf form)
      ask (c.createCredential draft)
      return g.note s!"Credential profile created for {draft.hostname}"
  | updateCredential id form => do
      let draft ← Call.ofExcept (draftOf form)
      ask (c.updateCredential id draft)
      return g.note s!"Credential profile {id} updated"
  | deleteCredential id => do
      Call.ofExcept g.confirm
      ask (c.deleteCredential id)
      return g.note s!"Credential profile {id} deleted"
  | listDiscovery => do
      let profiles ← ask c.listDiscovery
      return g.display (View.summaries (profiles.map DiscoveryProfile.summary))
  | getDiscovery id expand => do
      let p ← findProfile c id
      let addresses ←
        if expand then (fun set => some set.elems) <$> require (c.expandTargets p.targets)
        else pure none
      return g.display (View.discovery p.summary addresses)
  | createDiscovery mode targets credentialIds =>
      submit c g "created"
        (((DiscoveryDraft.new.setMode mode).editTargets targets).setCredentials credentialIds)
  | updateDiscovery id targets credentialIds => do
      submit c g "updated" (revised (← findProfile c id) targets credentialIds)
  | deleteDiscovery id => do
      Call.ofExcept g.confirm
      ask (c.deleteDiscovery id)
      return g.note s!"Discovery profile {id} deleted"
  | runDiscovery id => do
      ask (c.runDiscovery id)
      return g.note s!"Discovery started for profile {id}"
  | showTelemetry device duration aggregation => do
      let address ← require (Address.parse device)
      let t ← ask (c.deviceTelemetryAt address duration.seconds aggregation now)
      return { g.display (View.telemetry c.config t) with failure := telemetryFailure? t }

def console (w : Surroundings) (g : GlobalOptions) : Except CommandError Console := do
  let config ← g.consoleConfig w.settings w.settingsPath
  (Console.ofConfig w.files config).mapError .ofConsole

end DeviceConsole.BackendCommand
