import DeviceConsole.Json.Basic
import DeviceConsole.Decimal.Integer

/-! Decoding of JSON values into typed ones. A number counts as an integer only if it is written
as one. -/
namespace DeviceConsole.Json

def toInt64? : Json → Option Int64
  | int i => Decimal.int64? i
  | _ => none

/-- A natural number of at most `bound`. -/
def toNat? (bound : Nat) : Json → Option Nat
  | int i => if 0 ≤ i ∧ i ≤ bound then some i.toNat else none
  | _ => none

def toUInt16? (j : Json) : Option UInt16 := (j.toNat? 65535).map UInt16.ofNat

def toUInt32? (j : Json) : Option UInt32 := (j.toNat? 4294967295).map UInt32.ofNat

def toUInt64? (j : Json) : Option UInt64 := (j.toNat? Decimal.maxUInt64).map UInt64.ofNat

def toBool? : Json → Option Bool
  | bool b => some b
  | _ => none

def toText? : Json → Option String
  | str s => some s
  | _ => none

/-- Every item has to decode. -/
def toList? {α : Type} (decode : Json → Option α) : Json → Option (List α)
  | arr items => items.mapM decode
  | _ => none

/-- `null` is the absent value. -/
def toOption? {α : Type} (decode : Json → Option α) : Json → Option (Option α)
  | null => some none
  | j => (decode j).map some

/-- The value of a field that may occur once at most. -/
def single? (fields : List (String × Json)) (name : String) : Option (Option Json) :=
  match fields.filter fun f => f.1 = name with
  | [] => some none
  | [f] => some (some f.2)
  | _ => none

/-- The values of a record's fields, `none` where one is missing. A record is an object, whose
other fields are ignored, or an array of the first fields in order. -/
def record? (names : List String) : Json → Option (List (Option Json))
  | obj fields => names.mapM (single? fields)
  | arr items =>
      if items.length ≤ names.length then
        some (names.zipIdx.map fun n => items[n.2]?)
      else none
  | _ => none

/-- A field that has to be there. -/
def required? {α : Type} (decode : Json → Option α) (j : Option Json) : Option α := j >>= decode

/-- A field with a value of its own when it is left out. -/
def withDefault? {α : Type} (decode : Json → Option α) (default : α) : Option Json → Option α
  | none => some default
  | some j => decode j

end DeviceConsole.Json
