import DeviceConsole.Command.Basic
import DeviceConsole.Command.Error
import DeviceConsole.Console
import DeviceConsole.Settings.File

/-! What a command leaves behind. -/
namespace DeviceConsole

/-- The texts for the two output streams, the failure, and what the settings file holds where it was
written to, even if that failed. -/
structure Report where
  shown : String := ""
  notes : String := ""
  failure : Option CommandError := none
  settingsFile : Option String := none
deriving DecidableEq, Inhabited

namespace Report

def failed (e : CommandError) : Report := { failure := some e }

def exitCode (r : Report) : UInt8 := (r.failure.map CommandError.exitCode).getD 0

def ofExcept : Except CommandError Report → Report
  | .ok r => r
  | .error e => failed e

end Report

namespace GlobalOptions

/-- Nothing is printed for an empty text. -/
def print (g : GlobalOptions) (text : String) : Report :=
  { shown := if g.quiet || text.isEmpty then "" else text ++ "\n" }

def display (g : GlobalOptions) (v : View) : Report := g.print (v.render g.output)

/-- A line for the operator. -/
def note (g : GlobalOptions) (text : String) : Report :=
  { notes := if g.quiet then "" else text ++ "\n" }

/-- There is no one to ask, since commands are taken to run away from a terminal. At one a question
would be put, and any answer but yes would end the command with nothing changed. -/
def confirm (g : GlobalOptions) : Except CommandError Unit :=
  if g.yes then .ok () else .error (.system "IO error: not a terminal")

end GlobalOptions

structure Surroundings where
  environment : List (String × String)
  settingsPath : String
  /-- The text of the settings file, where there is one. -/
  settingsFile : Option String
  /-- What the disk makes of a new settings file. -/
  disk : Settings.Disk := .sound
  files : Console.Files
  /-- Unix seconds. -/
  now : Int64

end DeviceConsole
