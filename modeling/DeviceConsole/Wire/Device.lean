import DeviceConsole.Wire.Address

/-! Devices, the rows in which the backend lists them, and the body that flips provisioning. -/
namespace DeviceConsole

structure Device where
  address : Address
  credentialId : Option Int64
  provisioned : Bool
deriving DecidableEq, Repr

/-- Lowest address first; rows of equal address keep their order. -/
def Device.sort (devices : List Device) : List Device :=
  devices.mergeSort fun a b => a.address ≤ b.address

structure DeviceRow where
  ip : WireAddress
  credentialId : Option Int64
  provisioned : Bool
deriving DecidableEq, Repr

namespace DeviceRow

def fields : List String := ["ip", "credential_id", "is_provisioned"]

def toJson (r : DeviceRow) : Json :=
  .obj [("ip", r.ip.toJson), ("credential_id", .ofOption (fun id => .int id.toInt) r.credentialId),
    ("is_provisioned", .bool r.provisioned)]

def ofJson? (j : Json) : Option DeviceRow := do
  match ← j.record? fields with
  | [ip, credential, provisioned] =>
      some
        { ip := ← Json.required? WireAddress.ofJson? ip
          credentialId := ← Json.withDefault? (Json.toOption? Json.toInt64?) none credential
          provisioned := ← Json.withDefault? Json.toBool? false provisioned }
  | _ => none

/-- A row whose address cannot be read makes no device. -/
def toDevice (r : DeviceRow) : Except ConsoleError Device :=
  r.ip.resolve.map fun address =>
    { address, credentialId := r.credentialId, provisioned := r.provisioned }

end DeviceRow

/-- The addresses whose provisioning state the backend is to flip. -/
structure ProvisionBody where
  addresses : List UInt32
deriving DecidableEq, Repr

namespace ProvisionBody

def ofAddresses (as : List Address) : ProvisionBody := ⟨as.map (·.packed)⟩

def toJson (b : ProvisionBody) : Json :=
  .obj [("provision_update_ips", .arr (b.addresses.map fun n => .ofNat n.toNat))]

def ofJson? (j : Json) : Option ProvisionBody := do
  match ← j.record? ["provision_update_ips"] with
  | [ips] => some ⟨← Json.required? (Json.toList? Json.toUInt32?) ips⟩
  | _ => none

end ProvisionBody
end DeviceConsole
