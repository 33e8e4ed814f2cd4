import DeviceConsole.Json.Basic

/-! Layers of settings, one over the other. -/
namespace DeviceConsole.Layer

/-- Changes the value of a field, or adds the field at the end. -/
def setField (key : String) (value : Json) : List (String × Json) → List (String × Json)
  | [] => [(key, value)]
  | (k, v) :: rest => if k = key then (key, value) :: rest else (k, v) :: setField key value rest

/-- What the upper layer says goes, field by field where both are objects. -/
def overlay : Json → Json → Json
  | .obj base, .obj upper => .obj (overlayFields base upper)
  | _, upper => upper
where
  overlayFields (base : List (String × Json)) : List (String × Json) → List (String × Json)
    | [] => base
    | (key, value) :: rest =>
        overlayFields (setField key (overlay ((base.lookup key).getD .null) value) base) rest

end DeviceConsole.Layer
