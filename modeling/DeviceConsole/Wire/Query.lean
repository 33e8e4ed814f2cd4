import DeviceConsole.Json.Decode
import DeviceConsole.Telemetry.Query

/-! The body of a counter query. -/
namespace DeviceConsole

structure QueryBody where
  start : Int64
  stop : Int64
  objects : List UInt32
  vertical : String
  horizontal : String
  interval : UInt32
  counter : UInt16
deriving DecidableEq, Repr

namespace QueryBody

/-- Both axes use the query's aggregation. -/
def ofQuery (q : TelemetryQuery) : QueryBody :=
  { start := q.window.start, stop := q.window.stop, objects := q.devices.map (·.packed)
    vertical := q.aggregation.text, horizontal := q.aggregation.text
    interval := q.interval, counter := q.counter }

def fields : List String :=
  ["from", "to", "object_ids", "vertical_aggregation", "horizontal_aggregation", "interval",
    "counter_id"]

def toJson (b : QueryBody) : Json :=
  .obj [("from", .int b.start.toInt), ("to", .int b.stop.toInt),
    ("object_ids", .arr (b.objects.map fun n => .ofNat n.toNat)),
    ("vertical_aggregation", .str b.vertical), ("horizontal_aggregation", .str b.horizontal),
    ("interval", .ofNat b.interval.toNat), ("counter_id", .ofNat b.counter.toNat)]

def ofJson? (j : Json) : Option QueryBody := do
  match ← j.record? fields with
  | [start, stop, objects, vertical, horizontal, interval, counter] =>
      some
        { start := ← Json.required? Json.toInt64? start
          stop := ← Json.required? Json.toInt64? stop
          objects := ← Json.required? (Json.toList? Json.toUInt32?) objects
          vertical := ← Json.required? Json.toText? vertical
          horizontal := ← Json.required? Json.toText? horizontal
          interval := ← Json.required? Json.toUInt32? interval
          counter := ← Json.required? Json.toUInt16? counter }
  | _ => none

end QueryBody
end DeviceConsole
