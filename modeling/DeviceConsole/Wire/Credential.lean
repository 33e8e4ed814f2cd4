import DeviceConsole.Credential
import DeviceConsole.Json.Decode

/-! Credential profiles on the wire. A password is only ever sent. -/
namespace DeviceConsole

namespace CredentialProfile

def fields : List String := ["id", "hostname", "port"]

def toJson (p : CredentialProfile) : Json :=
  .obj [("id", .int p.id.toInt), ("hostname", .str p.hostname), ("port", .ofNat p.port.toNat)]

/-- Other fields of the row, a password among them, are not looked at. -/
def ofJson? (j : Json) : Option CredentialProfile := do
  match ← j.record? fields with
  | [id, hostname, port] =>
      some
        { id := ← Json.required? Json.toInt64? id
          hostname := ← Json.required? Json.toText? hostname
          port := ← Json.required? Json.toUInt16? port }
  | _ => none

end CredentialProfile

def CredentialDraft.toJson (d : CredentialDraft) : Json :=
  .obj [("hostname", .str d.hostname), ("password", .str d.password),
    ("port", .ofNat d.port.toNat)]

end DeviceConsole
