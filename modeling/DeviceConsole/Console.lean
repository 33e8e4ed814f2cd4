import DeviceConsole.Certificate
import DeviceConsole.Client
import DeviceConsole.Selection
import DeviceConsole.Telemetry.Series

/-! The operations of the console. Each validates what it is given before anything is sent and
turns answers into domain values. -/
namespace DeviceConsole

inductive TlsVerification where
  | systemDefaults
  | customCa (path : String)
  | acceptInvalid
deriving DecidableEq, Repr

/-- How a backend is reached, and the limits and counters that go with it. -/
structure ConsoleConfig where
  server : Url
  tls : TlsVerification := .systemDefaults
  timeout : UInt64 := 30
  expansionCeiling : UInt64 := 4096
  diskCounter : UInt16 := DeviceConsole.diskCounter
  cpuCounter : UInt16 := DeviceConsole.cpuCounter
deriving DecidableEq, Repr

structure Console where
  client : Client
  config : ConsoleConfig
deriving DecidableEq, Repr

/-- Disk and CPU series of a device over one window, each with an outcome of its own. -/
structure DeviceTelemetry where
  device : Address
  window : TimeWindow
  aggregation : Aggregation
  interval : UInt32
  disk : Except ConsoleError Series
  cpu : Except ConsoleError Series

namespace Console

/-- The text of the file at a path, or why it cannot be read. -/
abbrev Files := String → Except String String

/-- The certificate file of a connection has to be there and in order. -/
def checkTls (files : Files) : TlsVerification → Except RequestError Unit
  | .customCa path =>
      match files path with
      | .error reason => .error (.tls s!"failed to read CA cert: {reason}")
      | .ok text =>
          if Certificate.isValid text then .ok ()
          else .error (.tls "failed to build HTTP client: builder error")
  | _ => .ok ()

def ofConfig (files : Files) (config : ConsoleConfig) : Except ConsoleError Console :=
  let client := do
    checkTls files config.tls
    Client.ofServer config.server.text
  match client with
  | .ok client => .ok { client, config }
  | .error e => .error e.toConsoleError

def lift {α : Type} (x : Call RequestError α) : Call ConsoleError α :=
  x.adapt RequestError.toConsoleError

/-! ### Devices -/

/-- The rows that make a device, sorted by address. -/
def devicesOf (rows : List DeviceRow) : List Device :=
  Device.sort (rows.filterMap fun r => r.toDevice.toOption)

def listDevices (c : Console) : Call ConsoleError (List Device) :=
  devicesOf <$> lift c.client.listDevices

/-- Sends the selection. How many were sent, and the selection afterwards: empty after a success,
as it was after a failure. -/
def submitProvisioning (c : Console) (s : Selection) :
    Exchange (Except ConsoleError Nat × Selection) :=
  match s.request with
  | .error e => .done (.error e, s)
  | .ok addresses => do
      match ← (lift (c.client.updateProvisioning (.ofAddresses addresses))).run with
      | .ok () => return (.ok addresses.length, .empty)
      | .error e => return (.error e, s)

/-- The listed devices among the addresses whose state has to change. An address that is not
listed is an error. -/
def selectChanging (devices : List Device) (provisioned : Bool) :
    Selection → List Address → Except ConsoleError Selection
  | s, [] => .ok s
  | s, a :: as =>
      match devices.find? fun d => d.address = a with
      | none => .error (.notFound a.text)
      | some d =>
          selectChanging devices provisioned
            (if d.provisioned ≠ provisioned && !s.contains a then s.toggle a else s) as

/-- Brings each address to the given state and tells how many had to change. The backend can only
flip, so a device that is in the state already is not sent. -/
def setProvisioned (c : Console) (addresses : List Address) (provisioned : Bool) :
    Call ConsoleError Nat := do
  let devices ← c.listDevices
  let s ← Call.ofExcept (selectChanging devices provisioned .empty addresses)
  if s.isEmpty then return 0
  else ExceptT.mk ((·.1) <$> c.submitProvisioning s)

def provisionDevice (c : Console) (address : Address) : Call ConsoleError Unit :=
  lift (c.client.updateProvisioning (.ofAddresses [address]))

/-! ### Credential profiles -/

def listCredentials (c : Console) : Call ConsoleError (List CredentialProfile) :=
  lift c.client.listCredentials

def createCredential (c : Console) (draft : CredentialDraft) : Call ConsoleError Unit :=
  lift (c.client.createCredential draft)

def updateCredential (c : Console) (id : Int64) (draft : CredentialDraft) :
    Call ConsoleError Unit :=
  lift (c.client.updateCredential id draft)

def deleteCredential (c : Console) (id : Int64) : Call ConsoleError Unit :=
  lift (c.client.deleteCredential id)

/-! ### Discovery profiles -/

def profilesOf (rows : List DiscoveryRow) : List DiscoveryProfile :=
  rows.filterMap fun r => r.toProfile.toOption

def listDiscovery (c : Console) : Call ConsoleError (List DiscoveryProfile) :=
  profilesOf <$> lift c.client.listDiscovery

def submitDiscovery (c : Console) (draft : DiscoveryDraft) :
    Call ConsoleError DiscoverySubmission := do
  let submission ← Call.ofExcept draft.submit
  let body := DiscoveryBody.ofSubmission submission
  match submission.id with
  | some id => lift (c.client.updateDiscovery id body)
  | none => lift (c.client.createDiscovery body)
  return submission

def deleteDiscovery (c : Console) (id : Int64) : Call ConsoleError Unit :=
  lift (c.client.deleteDiscovery id)

def runDiscovery (c : Console) (id : Int64) : Call ConsoleError Unit :=
  lift (c.client.runDiscovery id)

def expandTargets (c : Console) (targets : Targets) : Except ConsoleError AddressSet :=
  targets.expand c.config.expansionCeiling.toNat

/-! ### Telemetry -/

/-- The series an answer stands for. A success whose body is no JSON is a malformed series, not a
failure. -/
def seriesOf (device : Address) : Except RequestError Json → Except ConsoleError Series
  | .ok raw => .ok (normalize raw device)
  | .error (.undecodable message _) =>
      .ok { diagnostic := some (.malformedTelemetry message) }
  | .error e => .error e.toConsoleError

/-- The disk and the CPU query, in this order. -/
def telemetryQueries (c : Console) (device : Address) (duration : Int64)
    (aggregation : Aggregation) (now : Int64) :
    Except ConsoleError (TelemetryQuery × TelemetryQuery) := do
  let plan := ((QueryPlan.ofDevice device).withDuration duration).withAggregation aggregation
  let queries ← (plan.withCounters [c.config.diskCounter, c.config.cpuCounter]).build now
  match queries with
  | [disk, cpu] => return (disk, cpu)
  | _ => throw (.internal s!"expected two telemetry queries, built {queries.length}")

/-- Both queries go out together; what becomes of one does not touch the other. -/
def fetchBoth (c : Console) (device : Address) (disk cpu : TelemetryQuery) :
    Exchange (Except ConsoleError Series × Except ConsoleError Series) :=
  let answered (q : Request) (o : Outcome) : Except ConsoleError Series :=
    seriesOf device (Client.interpret Client.readQuery q o)
  match c.client.queryRequest (.ofQuery disk), c.client.queryRequest (.ofQuery cpu) with
  | .ok q, .ok r => .askBoth q r fun o p => .done (answered q o, answered r p)
  | .ok q, .error e => .ask q fun o => .done (answered q o, seriesOf device (.error e))
  | .error e, .ok r => .ask r fun p => .done (seriesOf device (.error e), answered r p)
  | .error e, .error f => .done (seriesOf device (.error e), seriesOf device (.error f))

/-- Disk and CPU series for the window of the given length that ends at `now`. Only a query that
cannot be built is an error. -/
def deviceTelemetryAt (c : Console) (device : Address) (duration : Int64)
    (aggregation : Aggregation) (now : Int64) : Call ConsoleError DeviceTelemetry := do
  let (disk, cpu) ← Call.ofExcept (c.telemetryQueries device duration aggregation now)
  let (diskSeries, cpuSeries) ← ExceptT.lift (c.fetchBoth device disk cpu)
  return {
    device, window := disk.window, aggregation, interval := disk.interval
    disk := diskSeries, cpu := cpuSeries }

end Console
end DeviceConsole
