import DeviceConsole.Text.Quoted

/-! Everything that can go wrong in a console operation: mistakes of the operator, failures of the
connection, refusals of the backend. -/
namespace DeviceConsole

inductive ConsoleError where
  | invalidAddresses (tokens : List String)
  | invalidCidr (input : String)
  | tooManyTargets (size ceiling : Nat)
  | noCredentials
  | repeatedCredential (id : Int64)
  | invalidPort (input : String)
  | invalidInput (message : String)
  | invalidWindow (start stop : Int64)
  | malformedTelemetry (reason : String)
  | nothingSelected
  | unreachable (url reason : String)
  | timedOut
  | notFound (identifier : String)
  | refused (message : String) (status : Option UInt16)
  | misconfigured (message : String)
  | internal (message : String)
deriving DecidableEq, Repr

namespace ConsoleError

def message : ConsoleError → String
  | invalidAddresses tokens => "Invalid IP address format: " ++ ", ".intercalate tokens
  | invalidCidr input =>
      "Invalid CIDR format: " ++ Text.quote input ++ " (expected a.b.c.d/n with n in 0..=32)"
  | tooManyTargets size ceiling =>
      s!"Target set of {size} addresses exceeds the expansion ceiling of {ceiling}"
  | noCredentials => "At least one credential profile must be selected"
  | repeatedCredential id => s!"Credential profile {id} is selected more than once"
  | invalidPort input =>
      "Invalid port " ++ Text.quote input ++ ": must be an integer between 0 and 65535"
  | invalidInput message => s!"Validation failed: {message}"
  | invalidWindow start stop =>
      s!"Invalid time window: from ({start}) must be before to ({stop})"
  | malformedTelemetry reason => s!"Malformed telemetry response: {reason}"
  | nothingSelected => "No devices selected for provisioning"
  | unreachable url reason => s!"Cannot connect to backend at {url}: {reason}"
  | timedOut => "Backend request timed out"
  | notFound identifier => s!"Not found: {identifier}"
  | refused message _ => s!"API error: {message}"
  | misconfigured message => s!"Configuration error: {message}"
  | internal message => s!"Internal error: {message}"

/-- Mistakes of the operator, as opposed to failures of the backend or the connection. -/
def isValidation : ConsoleError → Bool
  | invalidAddresses _ | invalidCidr _ | tooManyTargets _ _ | noCredentials
  | repeatedCredential _ | invalidPort _ | invalidInput _ | invalidWindow _ _
  | nothingSelected => true
  | _ => false

end ConsoleError
end DeviceConsole
