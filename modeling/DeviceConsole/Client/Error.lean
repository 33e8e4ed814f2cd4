import DeviceConsole.Backend.Status
import DeviceConsole.ConsoleError
import DeviceConsole.Url.Basic

/-! Failures of a single request, and what they mean to the operator. -/
namespace DeviceConsole

/-- What the transport tells of a request that got no answer. -/
structure ConnectionFault where
  refused : Bool := false
  timedOut : Bool := false
  status : Option UInt16 := none
  text : String
deriving DecidableEq, Repr

/-- A request to this address could not be brought to its end. -/
def ConnectionFault.sending (url : Url) : ConnectionFault :=
  { text := s!"error sending request for url ({url})" }

inductive RequestError where
  | connection (fault : ConnectionFault) (url : Option Url)
  | invalidUrl (error : UrlError)
  | tls (message : String)
  | status (code : Nat) (message : String)
  | undecodable (message : String) (body : String)
deriving DecidableEq, Repr

namespace RequestError

def message : RequestError → String
  | connection fault _ => s!"HTTP transport error: {fault.text}"
  | invalidUrl error => s!"Invalid URL: {error.message}"
  | tls message => s!"TLS error: {message}"
  | status code message => s!"API error (HTTP {code}): {message}"
  | undecodable message _ => s!"Deserialization error: {message}"

/-- Worth another try: no connection, no answer in time, or a fault of the backend. -/
def isTransient : RequestError → Bool
  | connection fault _ => fault.timedOut || fault.refused
  | status code _ => 500 ≤ code
  | _ => false

def isNotFound : RequestError → Bool
  | connection fault _ => fault.status = some 404
  | status code _ => code = 404
  | _ => false

def statusCode? : RequestError → Option Nat
  | connection fault _ => fault.status.map UInt16.toNat
  | status code _ => some code
  | _ => none

def toConsoleError : RequestError → ConsoleError
  | connection fault url =>
      if fault.timedOut then .timedOut
      else if fault.refused then .unreachable ((url.map Url.text).getD "<unknown>") fault.text
      else if fault.status = some 404 then .notFound ((url.map Url.path).getD "")
      else .refused fault.text fault.status
  | invalidUrl error => .misconfigured s!"Invalid URL: {error.message}"
  | tls message => .unreachable "" s!"TLS error: {message}"
  | status code message =>
      if code = 404 then .notFound message else .refused message (some (UInt16.ofNat code))
  | undecodable message _ => .internal s!"Deserialization error: {message}"

end RequestError
end DeviceConsole
