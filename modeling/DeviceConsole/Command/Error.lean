import DeviceConsole.ConsoleError
import DeviceConsole.Settings.Error

/-! Why a command fails, what the operator is told, and the exit code that goes with it. -/
namespace DeviceConsole

inductive CommandError where
  | connectionFailed (url reason : String)
  | timedOut
  | notFound (kind identifier listing : String)
  | refused (code message : String)
  | invalidValue (field reason : String)
  | profileNotFound (name available : String)
  | noBackend (path : String)
  | settings (error : SettingsError)
  | needsConfirmation (action : String)
  | system (message : String)
deriving DecidableEq, Repr

namespace CommandError

def message : CommandError → String
  | connectionFailed url _ => s!"Could not connect to backend at {url}"
  | timedOut => "Request timed out"
  | notFound kind identifier _ => s!"{kind} '{identifier}' not found"
  | refused code message => s!"API error ({code}): {message}"
  | invalidValue field reason => s!"Invalid value for {field}: {reason}"
  | profileNotFound name _ => s!"Profile '{name}' not found in configuration"
  | noBackend _ => "No backend configured"
  | settings error => error.message
  | needsConfirmation action => s!"Destructive operation '{action}' requires confirmation"
  | system message => message

def help : CommandError → Option String
  | connectionFailed _ reason =>
      some ("Check that the backend is running and accessible.\nReason: " ++ reason ++
        "\nTry: nmsops devices list --server <url>")
  | timedOut => some "Increase timeout with --timeout or check backend responsiveness."
  | notFound kind _ listing => some s!"Run: nmsops {listing} to see available {kind}s"
  | profileNotFound _ available =>
      some s!"Available profiles: {available}\nCreate one with: nmsops config init"
  | noBackend path =>
      some ("Create a profile with: nmsops config init\n" ++
        s!"Or pass --server <url> (NMSOPS_SERVER).\nExpected config at: {path}")
  | needsConfirmation _ =>
      some "Use --yes (-y) to skip confirmation in non-interactive contexts."
  | _ => none

/-- The stable name of the kind of failure. -/
def code : CommandError → Option String
  | connectionFailed _ _ => some "nmsops::connection_failed"
  | timedOut => some "nmsops::timeout"
  | notFound _ _ _ => some "nmsops::not_found"
  | refused _ _ => some "nmsops::api_error"
  | invalidValue _ _ => some "nmsops::validation"
  | profileNotFound _ _ => some "nmsops::profile_not_found"
  | noBackend _ => some "nmsops::no_config"
  | settings _ => some "nmsops::config"
  | needsConfirmation _ => some "nmsops::confirmation_required"
  | system _ => none

def exitCode : CommandError → UInt8
  | connectionFailed _ _ => 7
  | timedOut => 8
  | notFound _ _ _ => 4
  | invalidValue _ _ | profileNotFound _ _ | noBackend _ | needsConfirmation _ => 2
  | refused _ _ | settings _ | system _ => 1

/-- A mistake of the operator names the field it is in. -/
def ofConsole (e : ConsoleError) : CommandError :=
  match e with
  | .invalidAddresses _ | .invalidCidr _ | .tooManyTargets _ _ => invalidValue "targets" e.message
  | .noCredentials | .repeatedCredential _ => invalidValue "credentials" e.message
  | .invalidPort _ => invalidValue "port" e.message
  | .invalidWindow _ _ => invalidValue "duration" e.message
  | .nothingSelected => invalidValue "devices" e.message
  | .invalidInput _ => invalidValue "input" e.message
  | .unreachable url reason => connectionFailed url reason
  | .timedOut => timedOut
  | .notFound identifier => notFound "resource" identifier "--help"
  | .refused message status => refused ((status.map toString).getD "unknown") message
  | .malformedTelemetry reason => refused "malformed" reason
  | .misconfigured message => invalidValue "server" message
  | .internal _ => refused "internal" e.message

def ofSettings : SettingsError → CommandError
  | .invalid field reason => invalidValue field reason
  | .unknownProfile name => profileNotFound name "(none)"
  | .file message => system message
  | e => settings e

end CommandError
end DeviceConsole
