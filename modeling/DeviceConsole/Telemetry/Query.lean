import DeviceConsole.Address
import DeviceConsole.Telemetry.Window

/-! Counter queries: one per counter, all over the same window, devices and aggregation. -/
namespace DeviceConsole

/-- The counters charted when nothing else is configured. -/
def diskCounter : UInt16 := 1

def cpuCounter : UInt16 := 2

structure TelemetryQuery where
  window : TimeWindow
  devices : List Address
  aggregation : Aggregation
  interval : UInt32
  counter : UInt16
deriving DecidableEq, Repr

/-- A request in the making. It starts with the default window, aggregation and counters. -/
structure QueryPlan where
  devices : List Address := []
  duration : Int64 := DurationPreset.lastHour.seconds
  aggregation : Aggregation := .avg
  counters : List UInt16 := [diskCounter, cpuCounter]
deriving DecidableEq, Repr

namespace QueryPlan

def ofDevice (device : Address) : QueryPlan := { devices := [device] }

/-- A device named before is not added again. -/
def addDevice (p : QueryPlan) (device : Address) : QueryPlan :=
  if device ∈ p.devices then p else { p with devices := p.devices ++ [device] }

def withDuration (p : QueryPlan) (seconds : Int64) : QueryPlan := { p with duration := seconds }

def withPreset (p : QueryPlan) (preset : DurationPreset) : QueryPlan :=
  p.withDuration preset.seconds

def withAggregation (p : QueryPlan) (aggregation : Aggregation) : QueryPlan :=
  { p with aggregation }

def withCounters (p : QueryPlan) (counters : List UInt16) : QueryPlan := { p with counters }

/-- One query per counter, for the window that ends at `now`. -/
def build (p : QueryPlan) (now : Int64) : Except ConsoleError (List TelemetryQuery) :=
  if p.devices.isEmpty then
    .error (.invalidInput "telemetry query needs at least one device")
  else if p.counters.isEmpty then
    .error (.invalidInput "telemetry query needs at least one counter")
  else
    (TimeWindow.endingAt now p.duration).map fun window =>
      p.counters.map fun counter =>
        { window, devices := p.devices, aggregation := p.aggregation
          interval := intervalFor p.duration, counter }

end QueryPlan
end DeviceConsole
