import DeviceConsole.Address
import DeviceConsole.Telemetry.Body
import DeviceConsole.Text.Blank

/-! Normal form of a counter series: samples in milliseconds, in order of time. -/
namespace DeviceConsole

structure Sample where
  millis : Int64
  value : Binary64
deriving DecidableEq, Repr

/-- A malformed body still makes a series, an empty one with the problem beside it. -/
structure Series where
  samples : List Sample := []
  diagnostic : Option ConsoleError := none
deriving DecidableEq, Repr

def Series.isMalformed (s : Series) : Bool := s.diagnostic.isSome

namespace RawTime

/-- Text is trimmed and has to be a 64-bit integer as a whole. -/
def toSeconds : RawTime → Except String Int64
  | seconds n => .ok n
  | text s =>
      match Decimal.readInt64? (Text.trimChars s.toList) with
      | some n => .ok n
      | none => .error s!"timestamp {Text.quote s} is not an integer"

end RawTime

/-- Seconds become milliseconds where 64 bits hold them. -/
def RawPoint.toSample (p : RawPoint) : Except String Sample :=
  match p.time.toSeconds with
  | .error e => .error e
  | .ok n =>
      match Decimal.int64? (n.toInt * 1000) with
      | some millis => .ok { millis, value := p.value }
      | none => .error s!"timestamp {n} out of range"

namespace TelemetryBody

/-- The points of a device: those under its dotted key, else those under its packed key. A bare
series has no keys and is any device's. -/
def pointsFor (device : Address) : TelemetryBody → List RawPoint
  | empty => []
  | bare points => points
  | keyed groups =>
      match groups.lookup device.text with
      | some points => points
      | none => (groups.lookup device.packedText).getD []

/-- Samples by ascending time; equal times keep their order of arrival. -/
def samplesFor (device : Address) (body : TelemetryBody) : Except String (List Sample) :=
  ((body.pointsFor device).mapM RawPoint.toSample).map fun samples =>
    samples.mergeSort fun a b => a.millis ≤ b.millis

end TelemetryBody

/-- Never fails: what is wrong with the body becomes the diagnostic. -/
def normalize (raw : Json) (device : Address) : Series :=
  match TelemetryBody.ofJson raw >>= TelemetryBody.samplesFor device with
  | .ok samples => { samples }
  | .error reason => { diagnostic := some (.malformedTelemetry reason) }

end DeviceConsole
