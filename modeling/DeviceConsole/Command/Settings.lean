import DeviceConsole.Command.Report
import DeviceConsole.Command.View
import DeviceConsole.Settings.Connection
import DeviceConsole.Settings.Edit

/-! Commands about the stored settings, and the profile that other commands work with. -/
namespace DeviceConsole

/-- Settings that cannot be loaded count as absent. -/
def Surroundings.settings (w : Surroundings) : Settings :=
  .loadOrDefault w.settingsFile w.environment

namespace GlobalOptions

def activeProfile (g : GlobalOptions) (s : Settings) : String := s.activeProfile g.profile

/-- What is given on the command line goes over the profile. -/
def override (g : GlobalOptions) (p : Profile) : Profile :=
  { p with
    server := g.server.getD p.server
    timeout := g.timeout.or p.timeout
    insecure := if g.insecure then some true else p.insecure }

/-- The profile in effect. Without a stored one a server is enough. -/
def effectiveProfile (g : GlobalOptions) (s : Settings) (settingsPath : String) :
    Except CommandError Profile :=
  let name := g.activeProfile s
  match s.profiles.get? name, g.server with
  | some p, _ => .ok (g.override p)
  | none, some server => .ok (g.override { server })
  | none, none =>
      if g.profile.isSome then .error (.profileNotFound name s.available)
      else .error (.noBackend settingsPath)

/-- The connection of the profile in effect. -/
def consoleConfig (g : GlobalOptions) (s : Settings) (settingsPath : String) :
    Except CommandError ConsoleConfig := do
  let p ← g.effectiveProfile s settingsPath
  (p.toConsoleConfig s.defaults).mapError .ofSettings

/-- The ceiling that holds without a backend. -/
def expansionCeiling (g : GlobalOptions) (s : Settings) : UInt64 :=
  ((s.profiles.get? (g.activeProfile s)).bind Profile.expansionCeiling).getD
    s.defaults.expansionCeiling

end GlobalOptions

namespace SettingsCommand

def greeting (settingsPath : String) : String :=
  "nmsops configuration wizard\n   Config path: " ++ settingsPath ++ "\n\n"

/-- What the operator is told of an attempt to save. -/
def report (g : GlobalOptions) (told : String) : Settings.Saving → Report
  | .refused e => .failed (.ofSettings e)
  | .cutOff rest e => { Report.failed (.ofSettings e) with settingsFile := some rest }
  | .done text => { g.note told with settingsFile := some text }

def change (w : Surroundings) (g : GlobalOptions) (key value : String) :
    Except SettingsError Report :=
  let name := g.activeProfile w.settings
  (w.settings.set name key value).map fun s =>
    report g ("Set " ++ key ++ " on profile '" ++ name ++ "'") (s.save w.disk)

def makeDefault (w : Surroundings) (g : GlobalOptions) (name : String) :
    Except CommandError Report :=
  match w.settings.profiles.get? name with
  | none => .error (.profileNotFound name w.settings.available)
  | some _ =>
      .ok (report g ("Default profile set to '" ++ name ++ "'")
        (Settings.save { w.settings with defaultProfile := some name } w.disk))

/-- The wizard gets no further than its greeting: the questions that follow are put at a terminal
only. -/
def run (w : Surroundings) (g : GlobalOptions) : SettingsCommand → Report
  | .init =>
      { notes := greeting w.settingsPath
        failure := some (.invalidValue "interactive" "prompt failed: IO error: not a terminal") }
  | .show => g.display (View.settings w.settings)
  | .path => g.print w.settingsPath
  | .set key value => .ofExcept ((change w g key value).mapError .ofSettings)
  | .profiles => g.display (View.profiles w.settings)
  | .use name => .ofExcept (makeDefault w g name)

end SettingsCommand
end DeviceConsole
