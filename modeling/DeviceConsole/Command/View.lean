import DeviceConsole.Calendar
import DeviceConsole.Command.Format
import DeviceConsole.Console
import DeviceConsole.Settings.Basic

/-! How the results of commands are shown. -/
namespace DeviceConsole.View

def yesNo (b : Bool) : String := if b then "yes" else "no"

/-! ### Devices and credential profiles -/

def deviceData (d : Device) : Json :=
  .obj [("ip", .str d.address.text),
    ("credential_id", .ofOption (fun id => .int id.toInt) d.credentialId),
    ("provisioned", .bool d.provisioned)]

def deviceRow (d : Device) : List String :=
  [d.address.text, (d.credentialId.map toString).getD "-", yesNo d.provisioned]

def devices : List Device → View :=
  ofList deviceData ["IP", "Credential", "Provisioned"] deviceRow fun d => d.address.text

def credentials : List CredentialProfile → View :=
  ofList CredentialProfile.toJson ["ID", "Hostname", "Port"]
    (fun p => [toString p.id, p.hostname, toString p.port]) fun p => toString p.id

/-! ### Discovery profiles -/

def summaryFields (s : DiscoverySummary) : List (String × Json) :=
  [("id", .int s.id.toInt), ("targets", .str s.targets), ("target_count", .ofNat s.targetCount),
    ("credential_profile_ids", .ofIds s.credentialIds), ("is_cidr", .bool s.isCidr)]

def idsText (ids : List Int64) : String := ", ".intercalate (ids.map toString)

/-- Long targets are cut in a table. -/
def shownLimit : Nat := 48

def shortened (s : String) : String :=
  if shownLimit < s.length then String.ofList (s.toList.take shownLimit) ++ "..." else s

def summaryRow (s : DiscoverySummary) : List String :=
  [toString s.id, shortened s.targets, toString s.targetCount, idsText s.credentialIds,
    yesNo s.isCidr]

def summaries : List DiscoverySummary → View :=
  ofList (fun s => .obj (summaryFields s)) ["ID", "Targets", "Count", "Credentials", "CIDR"]
    summaryRow fun s => toString s.id

/-- One profile, with every address of its targets where that is asked for. -/
def discovery (s : DiscoverySummary) (addresses : Option (List Address)) : View :=
  let texts := addresses.map fun as => as.map Address.text
  { data := .obj (summaryFields s ++ (texts.map fun ts => ("addresses", Json.ofStrings ts)).toList)
    readable := "\n".intercalate
      ([s!"ID:          {s.id}", s!"Targets:     {s.targets}", s!"Count:       {s.targetCount}",
        s!"Credentials: {idsText s.credentialIds}", s!"CIDR:        {yesNo s.isCidr}"] ++
        (texts.map fun ts => "" :: ts).getD [])
    identifiers := [toString s.id] }

/-! ### Targets -/

def block (b : Cidr) : View :=
  { data := .obj [("block", .str b.text), ("network", .str b.network.text),
      ("broadcast", .str b.broadcast.text), ("prefix", .ofNat b.bits), ("size", .ofNat b.size)]
    readable := "\n".intercalate
      [s!"Block:     {b}", s!"Network:   {b.network}", s!"Broadcast: {b.broadcast}",
        s!"Prefix:    /{b.bits}", s!"Addresses: {b.size}"]
    identifiers := [b.text] }

def addresses (as : List Address) : View :=
  ofList Json.str ["IP"] (fun s => [s]) (fun s => s) (as.map Address.text)

/-! ### Telemetry -/

structure Side where
  name : String
  counter : UInt16
  samples : List Sample
  error : Option String

def Side.of (name : String) (counter : UInt16) : Except ConsoleError Series → Side
  | .ok s =>
      { name, counter, samples := s.samples, error := s.diagnostic.map ConsoleError.message }
  | .error e => { name, counter, samples := [], error := some e.message }

def Side.data (s : Side) : Json :=
  let sample (x : Sample) : Json :=
    .obj [("timestamp_millis", .int x.millis.toInt), ("value", .float x.value)]
  .obj ([("counter_id", .ofNat s.counter.toNat), ("samples", .arr (s.samples.map sample))] ++
    (s.error.map fun e => ("error", Json.str e)).toList)

def Side.rows (s : Side) : List (List String) :=
  s.samples.map fun x => [s.name, Calendar.millisText x.millis.toInt, x.value.fixed 2]

def Side.line (label : String) (s : Side) : String :=
  match s.error with
  | some e => label ++ "unavailable (" ++ e ++ ")"
  | none => label ++ toString s.samples.length ++ " sample(s)"

/-- A bound of a window in milliseconds, held in the 64-bit range. -/
def boundMillis (seconds : Int64) : Int :=
  Decimal.heldInt64 (seconds.toInt * 1000)

def telemetry (c : ConsoleConfig) (t : DeviceTelemetry) : View :=
  let disk := Side.of "disk" c.diskCounter t.disk
  let cpu := Side.of "cpu" c.cpuCounter t.cpu
  let rows := disk.rows ++ cpu.rows
  let window := Calendar.millisText (boundMillis t.window.start) ++ " .. " ++
    Calendar.millisText (boundMillis t.window.stop)
  let table := if rows.isEmpty then []
    else ["", Text.Table.render ["Counter", "Time (UTC)", "Value"] rows]
  { data := .obj [("device", .str t.device.text), ("from", .int t.window.start.toInt),
      ("to", .int t.window.stop.toInt), ("aggregation", .str t.aggregation.text),
      ("interval", .ofNat t.interval.toNat), ("disk", disk.data), ("cpu", cpu.data)]
    readable := "\n".intercalate
      ([s!"Device:      {t.device}", s!"Window:      {window}",
        s!"Aggregation: {t.aggregation.text}", s!"Interval:    {t.interval}",
        disk.line "Disk:       ", cpu.line "CPU:        "] ++ table)
    identifiers := rows.map fun row => "\t".intercalate row }

/-! ### Settings -/

/-- A line of settings; texts stand in quotes as they are. -/
def settingLine (entry : String × Json) : String :=
  let value := match entry.2 with
    | .str s => "\"" ++ s ++ "\""
    | j => j.compact
  entry.1 ++ " = " ++ value ++ "\n"

def settingLines (entries : List (String × Json)) : String := String.join (entries.map settingLine)

def settingsText (s : Settings) : String :=
  settingLines ((s.defaultProfile.map fun n => ("default_profile", Json.str n)).toList) ++
    "\n[defaults]\n" ++ settingLines s.defaults.entries ++
    String.join (s.profiles.entries.map fun e =>
      "\n[profiles." ++ e.1 ++ "]\n" ++ settingLines e.2.entries)

def settings (s : Settings) : View :=
  { data := s.toJson, readable := settingsText s, identifiers := ["config"] }

def profiles (s : Settings) : View :=
  let active := s.activeProfile none
  ofList (fun e => .obj [("name", .str e.1), ("server", .str e.2.server),
      ("default", .bool (e.1 = active))])
    ["Name", "Server", "Default"]
    (fun e => [e.1, e.2.server, if e.1 = active then "*" else ""]) (·.1) s.profiles.entries

end DeviceConsole.View
