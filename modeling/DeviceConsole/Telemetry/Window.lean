import DeviceConsole.ConsoleError
import DeviceConsole.Decimal.Integer

/-! How telemetry is asked for: the reduction of a bucket, the windows an operator can pick, and
the bucket width that goes with each. -/
namespace DeviceConsole

/-- The reduction used inside buckets and across objects alike. -/
inductive Aggregation where
  | avg | min | max | sum | count
deriving DecidableEq, Repr, Inhabited

namespace Aggregation

def all : List Aggregation := [avg, min, max, sum, count]

def text : Aggregation → String
  | avg => "avg"
  | min => "min"
  | max => "max"
  | sum => "sum"
  | count => "count"

def ofText? (s : String) : Option Aggregation := all.find? fun m => m.text = s

end Aggregation

inductive DurationPreset where
  | lastHour | last6Hours | last24Hours | last2Days | last7Days
deriving DecidableEq, Repr, Inhabited

/-- Bucket width in ticks of the counter store. Only the longer presets have one of their own. -/
def intervalFor (duration : Int64) : UInt32 :=
  if duration = 21600 then 5
  else if duration = 86400 then 10
  else if duration = 172800 ∨ duration = 604800 then 30
  else 1

namespace DurationPreset

def all : List DurationPreset := [lastHour, last6Hours, last24Hours, last2Days, last7Days]

/-- The short text it is picked by. -/
def text : DurationPreset → String
  | lastHour => "1h"
  | last6Hours => "6h"
  | last24Hours => "24h"
  | last2Days => "2d"
  | last7Days => "7d"

def label : DurationPreset → String
  | lastHour => "Last Hour"
  | last6Hours => "Last 6 Hours"
  | last24Hours => "Last 24 Hours"
  | last2Days => "Last 2 Days"
  | last7Days => "Last 7 Days"

/-- The name it is stored under: the label without its blanks. -/
def name (p : DurationPreset) : String := String.ofList (p.label.toList.filter (· ≠ ' '))

def seconds : DurationPreset → Int64
  | lastHour => 3600
  | last6Hours => 21600
  | last24Hours => 86400
  | last2Days => 172800
  | last7Days => 604800

def interval (p : DurationPreset) : UInt32 := intervalFor p.seconds

def ofText? (s : String) : Option DurationPreset := all.find? fun p => p.text = s

def ofName? (s : String) : Option DurationPreset := all.find? fun p => p.name = s

def ofSeconds? (n : Int64) : Option DurationPreset := all.find? fun p => p.seconds = n

end DurationPreset

/-- A half-open window in unix seconds, never empty. -/
structure TimeWindow where
  start : Int64
  stop : Int64
  start_lt_stop : start < stop
deriving DecidableEq, Repr

namespace TimeWindow

def ofBounds (start stop : Int64) : Except ConsoleError TimeWindow :=
  if h : start < stop then .ok ⟨start, stop, h⟩ else .error (.invalidWindow start stop)

/-- The difference, held at the nearest bound where it leaves the 64-bit range. -/
def saturatingSub (a b : Int64) : Int64 :=
  Int64.ofInt (Decimal.heldInt64 (a.toInt - b.toInt))

/-- The window of the given length that ends at `now`. -/
def endingAt (now duration : Int64) : Except ConsoleError TimeWindow :=
  ofBounds (saturatingSub now duration) now

/-- The length, where 64 bits hold it. -/
def duration? (w : TimeWindow) : Option Int64 := Decimal.int64? (w.stop.toInt - w.start.toInt)

end TimeWindow
end DeviceConsole
