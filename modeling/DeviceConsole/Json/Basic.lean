import DeviceConsole.Binary64.Basic
import DeviceConsole.Dictionary

/-! JSON values. A number written without fraction and exponent is an integer, any other is a
double. Object fields keep their order and their repetitions until `canonical` is taken. -/
namespace DeviceConsole

inductive Json where
  | null
  | bool (b : Bool)
  | int (i : Int)
  | float (x : Binary64)
  | str (s : String)
  | arr (items : List Json)
  | obj (fields : List (String × Json))
deriving Inhabited, Repr

namespace Json

def ofNat (n : Nat) : Json := int n

/-- Fields sorted by key; of a repeated key the last value stays. -/
def sortFields (fields : List (String × Json)) : List (String × Json) :=
  (Dictionary.ofList fields).entries

/-- The value itself, with the fields of every object sorted and without repetitions. -/
def canonical : Json → Json
  | arr items => arr (canonicalItems items)
  | obj fields => obj (sortFields (canonicalFields fields))
  | leaf => leaf
where
  canonicalItems : List Json → List Json
    | [] => []
    | j :: js => canonical j :: canonicalItems js
  canonicalFields : List (String × Json) → List (String × Json)
    | [] => []
    | (k, j) :: fs => (k, canonical j) :: canonicalFields fs

def ofOption {α : Type} (f : α → Json) : Option α → Json
  | none => null
  | some a => f a

def ofStrings (ss : List String) : Json := arr (ss.map str)

/-- The last value under a key of an object. -/
def field? (key : String) : Json → Option Json
  | obj fields => (fields.reverse.find? fun f => f.1 = key).map (·.2)
  | _ => none

end Json
end DeviceConsole
