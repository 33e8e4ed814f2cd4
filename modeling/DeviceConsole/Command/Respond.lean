import DeviceConsole.Command.Backend
import DeviceConsole.Command.Targets
import DeviceConsole.CommandLine.Reader

/-! From the words of a command line to what comes of them. -/
namespace DeviceConsole

def BackendCommand.report (c : BackendCommand) (w : Surroundings) (g : GlobalOptions) :
    Exchange Report :=
  match BackendCommand.console w g with
  | .error e => .done (.failed e)
  | .ok console => Report.ofExcept <$> (c.run console g w.now).run

/-- Settings and targets are answered without a backend. -/
def Invocation.run (i : Invocation) (w : Surroundings) : Exchange Report :=
  match i.command with
  | .settings c => .done (c.run w i.options)
  | .targets c => .done (c.run w i.options)
  | .backend c => c.report w i.options

namespace CommandLine

def programVersion : String := "0.1.0"

/-- The groups and their forms, one group a line. -/
def summary : String :=
  "\n".intercalate ("Usage: nmsops [OPTIONS] <COMMAND>" :: groups.map fun g =>
    "  " ++ Scan.firstName g.names ++ ": " ++
      ", ".intercalate (g.forms.map fun f => Scan.firstName f.names))

/-- `none` where the words are no command. -/
def respond (w : Surroundings) (words : List String) : Exchange (Option Report) :=
  match read w.environment words with
  | .ok i => some <$> i.run w
  | .error .usage => .done none
  | .error (.version title) =>
      .done (some { shown := title ++ " " ++ programVersion ++ "\n" })
  | .error .help => .done (some { shown := summary ++ "\n" })

/-- The profile that the words ask to work with, where they ask for a backend. -/
def profile? (w : Surroundings) (words : List String) : Option Profile := do
  let i ← (read w.environment words).toOption
  (i.options.effectiveProfile w.settings w.settingsPath).toOption

/-- How many seconds a request may take. -/
def timeout (w : Surroundings) (words : List String) : UInt64 :=
  ((profile? w words).bind Profile.timeout).getD w.settings.defaults.timeout

def certificatePath? (w : Surroundings) (words : List String) : Option String :=
  (profile? w words).bind fun p => p.caCert

end CommandLine
end DeviceConsole
