import DeviceConsole.Settings.Basic
import DeviceConsole.Settings.Variable
import DeviceConsole.Toml.Reader

/-! Loading and storing settings. The file goes over the defaults and the environment over the
file. -/
namespace DeviceConsole.Settings

/-- No file is an empty layer. -/
def fileLayer? : Option String → Option Json
  | none => some (.obj [])
  | some text => Toml.parse? text

def load (file : Option String) (environment : List (String × String)) :
    Except SettingsError Settings :=
  match fileLayer? file with
  | none => .error .unreadable
  | some layer =>
      let whole := Layer.overlay (Layer.overlay ({} : Settings).toJson layer)
        (Variable.layer environment)
      match ofJson? whole with
      | some s => .ok s
      | none => .error .unreadable

/-- What cannot be loaded is as if nothing were stored. -/
def loadOrDefault (file : Option String) (environment : List (String × String)) : Settings :=
  match load file environment with
  | .ok s => s
  | .error _ => {}

/-! ### The stored form -/

/-- One value after an equals sign; integers of the file have 64 bits with a sign. -/
def valueText? : Json → Option String
  | .str s => some (Toml.quote s)
  | .bool b => some (if b then "true" else "false")
  | .int i => (Decimal.int64? i).map fun n => toString n
  | _ => none

def line? (entry : String × Json) : Option String :=
  (valueText? entry.2).map fun value => entry.1 ++ " = " ++ value ++ "\n"

def lines? (entries : List (String × Json)) : Option String :=
  (entries.mapM line?).map String.join

def headed? (header : String) (entries : List (String × Json)) : Option String :=
  (lines? entries).map fun body => "\n[" ++ header ++ "]\n" ++ body

/-- The text to store. A number beyond the file's integers cannot be stored. What is fixed is the
value the text has: another writer may put the profiles in another order, break lines within a text,
or leave out the header of a table that has nothing but tables in it. -/
def store (s : Settings) : Except SettingsError String :=
  let text := do
    let name ← lines? ((s.defaultProfile.map fun n => ("default_profile", Json.str n)).toList)
    let defaults ← headed? "defaults" s.defaults.entries
    let profiles ← s.profiles.entries.mapM fun e =>
      headed? ("profiles." ++ Toml.quote e.1) e.2.entries
    some (name ++ defaults ++ "\n[profiles]\n" ++ String.join profiles)
  match text with
  | some text => .ok text
  | none => .error .unstorable

/-! ### Replacing the file -/

/-- How the disk takes what is to replace the file: all of it, or there is no folder to be had, or
the file does not open and stays as it is, or it opens, which empties it, and takes only some
bytes. -/
inductive Disk where
  | sound
  | noFolder (reason : String)
  | unopened (reason : String)
  | cutOff (bytes : Nat) (reason : String)
deriving DecidableEq, Repr

/-- The characters that are whole within so many bytes. One that is cut in two is no text any more
and is left out. -/
def firstBytes : Nat → List Char → List Char
  | _, [] => []
  | n, c :: cs => if c.utf8Size ≤ n then c :: firstBytes (n - c.utf8Size) cs else []

/-- What comes of it: the file is left alone, it holds a beginning of the text, or the text. -/
inductive Saving where
  | refused (error : SettingsError)
  | cutOff (rest : String) (error : SettingsError)
  | done (text : String)
deriving DecidableEq, Repr

/-- The folder is made before there is a text, and the file is opened only for a text. -/
def save (s : Settings) (disk : Disk) : Saving :=
  match disk, s.store with
  | .noFolder reason, _ => .refused (.file reason)
  | _, .error e => .refused e
  | .unopened reason, .ok _ => .refused (.file reason)
  | .cutOff bytes reason, .ok text =>
      .cutOff (String.ofList (firstBytes bytes text.toList)) (.file reason)
  | .sound, .ok text => .done text

end DeviceConsole.Settings
