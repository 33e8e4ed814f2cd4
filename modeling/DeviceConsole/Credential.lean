import DeviceConsole.ConsoleError
import DeviceConsole.Decimal.Integer
import DeviceConsole.Text.Blank

/-! Credential profiles, and the form that makes or replaces one. -/
namespace DeviceConsole

/-- A stored profile; its password is never held. -/
structure CredentialProfile where
  id : Int64
  hostname : String
  port : UInt16
deriving DecidableEq, Repr

/-- A valid form. -/
structure CredentialDraft where
  hostname : String
  password : String
  port : UInt16
deriving DecidableEq, Repr

/-- Digits only, of value at most 65535; blanks around them are ignored. -/
def parsePort (text : String) : Except ConsoleError UInt16 :=
  match Decimal.readDigits? (Text.trimChars text.toList) with
  | some n => if n ≤ 65535 then .ok (UInt16.ofNat n) else .error (.invalidPort text)
  | none => .error (.invalidPort text)

namespace CredentialDraft

/-- The first of hostname, password and port that is wrong is reported. A password of blanks
counts as one. -/
def ofForm (hostname password port : String) : Except ConsoleError CredentialDraft :=
  let hostname := Text.trim hostname
  if hostname.isEmpty then .error (.invalidInput "hostname must not be empty")
  else if password.isEmpty then .error (.invalidInput "password must not be empty")
  else (parsePort port).map fun port => { hostname, password, port }

end CredentialDraft
end DeviceConsole
