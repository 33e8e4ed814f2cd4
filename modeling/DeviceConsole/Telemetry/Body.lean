import DeviceConsole.Json.Basic
import DeviceConsole.Binary64.Text
import DeviceConsole.Decimal.Integer
import DeviceConsole.Text.Quoted

/-! What the counter store answers: a bare list of points, or an object whose `data` groups points
by device. Which of the two it is, and whether its points have the right shape, is settled here;
the reason of a refusal is a text for the operator. -/
namespace DeviceConsole

/-- Seconds as a number, or as a text that is read only when the point is used. -/
inductive RawTime where
  | seconds (n : Int64)
  | text (s : String)
deriving DecidableEq, Repr

structure RawPoint where
  time : RawTime
  value : Binary64
deriving DecidableEq, Repr

inductive TelemetryBody where
  | empty
  | keyed (groups : List (String × List RawPoint))
  | bare (points : List RawPoint)
deriving DecidableEq, Repr

/-- What a value is, in the words of a type error. -/
def Json.describe : Json → String
  | .null => "null"
  | .bool b => s!"boolean \x60{b}\x60"
  | .int i => s!"integer \x60{i}\x60"
  | .float x => "floating point \x60" ++ x.text ++ "\x60"
  | .str s => "string " ++ Text.quote s
  | .arr _ => "sequence"
  | .obj _ => "map"

def Json.typeError (j : Json) (wanted : String) : String :=
  s!"invalid type: {j.describe}, expected {wanted}"

def RawTime.ofJson : Json → Except String RawTime
  | .str s => .ok (.text s)
  | .int i =>
      match Decimal.int64? i with
      | some n => .ok (.seconds n)
      | none => .error "data did not match any variant of untagged enum RawTimestamp"
  | _ => .error "data did not match any variant of untagged enum RawTimestamp"

/-- A number of either kind; an integer becomes the nearest double. -/
def Json.toBinary64 : Json → Except String Binary64
  | .float x => .ok x
  | .int i => .ok (.ofInt i)
  | j => .error (j.typeError "f64")

namespace RawPoint

/-- The fields in the order they come, unknown ones left aside; then what is missing. -/
def ofFields : Option RawTime → Option Binary64 → List (String × Json) → Except String RawPoint
  | some time, some value, [] => .ok { time, value }
  | none, _, [] => .error "missing field \x60timestamp\x60"
  | some _, none, [] => .error "missing field \x60value\x60"
  | time, value, (key, j) :: fields =>
      if key = "timestamp" then
        if time.isSome then .error "duplicate field \x60timestamp\x60"
        else match RawTime.ofJson j with
          | .ok t => ofFields (some t) value fields
          | .error e => .error e
      else if key = "value" then
        if value.isSome then .error "duplicate field \x60value\x60"
        else match j.toBinary64 with
          | .ok v => ofFields time (some v) fields
          | .error e => .error e
      else ofFields time value fields

/-- An object, or an array of exactly timestamp and value. -/
def ofJson : Json → Except String RawPoint
  | .obj fields => ofFields none none fields
  | .arr items =>
      match items with
      | [] => .error "invalid length 0, expected struct RawPoint with 2 elements"
      | t :: rest =>
          match RawTime.ofJson t, rest with
          | .error e, _ => .error e
          | .ok _, [] => .error "invalid length 1, expected struct RawPoint with 2 elements"
          | .ok time, v :: more =>
              match v.toBinary64 with
              | .error e => .error e
              | .ok value =>
                  if more.isEmpty then .ok { time, value }
                  else .error s!"invalid length {items.length}, expected fewer elements in array"
  | j => .error (j.typeError "struct RawPoint")

end RawPoint

namespace TelemetryBody

def points : Json → Except String (List RawPoint)
  | .arr items => items.mapM RawPoint.ofJson
  | j => .error (j.typeError "a sequence")

/-- The groups of the `data` object, every one of them with its points. -/
def groups : List (String × Json) → Except String (List (String × List RawPoint))
  | [] => .ok []
  | (key, j) :: rest =>
      match points j with
      | .error e => .error e
      | .ok ps => (groups rest).map ((key, ps) :: ·)

def ofData : Json → Except String TelemetryBody
  | .null => .ok .empty
  | .obj fields => (groups fields).map .keyed
  | j => .error (j.typeError "a map")

/-- No body and no `data` both mean no points. -/
def ofJson : Json → Except String TelemetryBody
  | .null => .ok .empty
  | .arr items =>
      match items.mapM RawPoint.ofJson with
      | .ok ps => .ok (.bare ps)
      | .error e => .error s!"bad series: {e}"
  | .obj fields =>
      match fields.find? fun f => f.1 = "data" with
      | none => .ok .empty
      | some (_, data) => (ofData data).mapError fun e => s!"bad keyed data: {e}"
  | _ => .error "expected an object or an array"

end TelemetryBody
end DeviceConsole
