import DeviceConsole.Target

/-! The target field of a form: mode, text, and the error of the text. -/
namespace DeviceConsole

/-- The error is that of the current text. A field that has not been edited since it was made or
last switched carries none, even where its empty text would not resolve. -/
structure TargetField where
  mode : TargetMode := .list
  text : String := ""
  error : Option ConsoleError := none
deriving DecidableEq, Inhabited

namespace TargetField

def new (mode : TargetMode) : TargetField := { mode }

def spec (f : TargetField) : TargetSpec := .ofInput f.mode f.text

def resolve (f : TargetField) : Except ConsoleError Targets := f.spec.resolve

def errorOf {α : Type} : Except ConsoleError α → Option ConsoleError
  | .ok _ => none
  | .error e => some e

def edit (f : TargetField) (text : String) : TargetField :=
  { f with text, error := errorOf (TargetSpec.ofInput f.mode text).resolve }

def withText (mode : TargetMode) (text : String) : TargetField := (new mode).edit text

/-- A real switch clears text and error; choosing the current mode again changes nothing. -/
def setMode (f : TargetField) (mode : TargetMode) : TargetField :=
  if mode = f.mode then f else new mode

end TargetField
end DeviceConsole
