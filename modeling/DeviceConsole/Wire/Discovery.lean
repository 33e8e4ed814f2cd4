import DeviceConsole.Discovery
import DeviceConsole.Wire.Address

/-! Discovery profiles on the wire. Targets go out as packed addresses or as one block text, and
come back as a list of addresses. -/
namespace DeviceConsole

/-- A block is sent as its text. -/
def Cidr.toJson (b : Cidr) : Json := .str b.text

inductive DeviceIps where
  | addresses (ns : List UInt32)
  | cidr (text : String)
deriving DecidableEq, Repr

namespace DeviceIps

def toJson : DeviceIps → Json
  | addresses ns => .arr (ns.map fun n => .ofNat n.toNat)
  | cidr text => .str text

def ofJson? : Json → Option DeviceIps
  | .str s => some (cidr s)
  | j => (j.toList? Json.toUInt32?).map addresses

def ofTargets : Targets → DeviceIps
  | .addresses set => addresses (set.elems.map (·.packed))
  | .block block => cidr block.text

end DeviceIps

structure DiscoveryBody where
  ips : DeviceIps
  credentialIds : List Int64
  isCidr : Bool
deriving DecidableEq, Repr

def Json.ofIds (ids : List Int64) : Json := .arr (ids.map fun id => .int id.toInt)

namespace DiscoveryBody

def ofSubmission (s : DiscoverySubmission) : DiscoveryBody :=
  { ips := .ofTargets s.targets, credentialIds := s.credentialIds, isCidr := s.targets.isCidr }

def toJson (b : DiscoveryBody) : Json :=
  .obj [("device_ips", b.ips.toJson), ("credential_profile_ids", .ofIds b.credentialIds),
    ("is_cidr", .bool b.isCidr)]

def ofJson? (j : Json) : Option DiscoveryBody := do
  match ← j.record? ["device_ips", "credential_profile_ids", "is_cidr"] with
  | [ips, credentials, isCidr] =>
      some
        { ips := ← Json.required? DeviceIps.ofJson? ips
          credentialIds := ← Json.required? (Json.toList? Json.toInt64?) credentials
          isCidr := ← Json.required? Json.toBool? isCidr }
  | _ => none

end DiscoveryBody

/-- A listed profile. -/
structure DiscoveryRow where
  id : Int64
  ips : List WireAddress
  credentialIds : List Int64
  isCidr : Bool
deriving DecidableEq, Repr

namespace DiscoveryRow

def fields : List String := ["id", "device_ips", "credential_profile_ids", "is_cidr"]

def toJson (r : DiscoveryRow) : Json :=
  .obj [("id", .int r.id.toInt), ("device_ips", .arr (r.ips.map WireAddress.toJson)),
    ("credential_profile_ids", .ofIds r.credentialIds), ("is_cidr", .bool r.isCidr)]

def ofJson? (j : Json) : Option DiscoveryRow := do
  match ← j.record? fields with
  | [id, ips, credentials, isCidr] =>
      some
        { id := ← Json.required? Json.toInt64? id
          ips := ← Json.withDefault? (Json.toList? WireAddress.ofJson?) [] ips
          credentialIds := ← Json.withDefault? (Json.toList? Json.toInt64?) [] credentials
          isCidr := ← Json.withDefault? Json.toBool? false isCidr }
  | _ => none

/-- The text of an entry whose address cannot be read. -/
def invalidToken? (w : WireAddress) : Option String :=
  match w, w.resolve with
  | .text s, .error _ => some s
  | .packed n, .error _ => some (toString n)
  | _, .ok _ => none

/-- All unreadable entries are reported, untrimmed and in order. -/
def toProfile (r : DiscoveryRow) : Except ConsoleError DiscoveryProfile :=
  let invalid := r.ips.filterMap invalidToken?
  if invalid.isEmpty then
    .ok
      { id := r.id
        targets := .addresses (.ofList (r.ips.filterMap fun w => w.resolve.toOption))
        credentialIds := r.credentialIds
        isCidr := r.isCidr }
  else .error (.invalidAddresses invalid)

end DiscoveryRow
end DeviceConsole
