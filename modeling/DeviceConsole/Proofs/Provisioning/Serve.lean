import DeviceConsole.Backend.Script
import DeviceConsole.Proofs.Client.Resource
import DeviceConsole.Proofs.Provisioning.Call
import DeviceConsole.Proofs.Provisioning.Table

/-! How a backend with a table answers: a listing tells the whole table, a flip is applied or not
and reported one way or another, the two apart. -/
namespace DeviceConsole

namespace ProvisionBody

theorem ofJson?_toJson (b : ProvisionBody) : ofJson? b.toJson = some b := by
  have hips : Json.toList? Json.toUInt32? (.arr (b.addresses.map fun n => .ofNat n.toNat)) =
      some b.addresses := Json.mapM_decode Json.toUInt32?_ofNat b.addresses
  simp [toJson, ofJson?, Json.record?, Json.single?, Json.required?, hips]

end ProvisionBody

/-- The order in which a backend lists its rows, and which addresses it writes as text. -/
structure Listing where
  order : List Device → List Device
  order_perm : ∀ devices, (order devices).Perm devices
  dotted : Device → Bool

namespace Listing

def row (L : Listing) (d : Device) : DeviceRow where
  ip := if L.dotted d then .text d.address.text else .packed d.address.packed
  credentialId := d.credentialId
  provisioned := d.provisioned

def body (L : Listing) (t : Table) : String :=
  Json.compact (deviceList ((L.order t.devices).map L.row))

/-- A caller, who sorts what is listed, holds the rows of the table. -/
theorem sort_perm (L : Listing) (devices : List Device) :
    (Device.sort (L.order devices)).Perm devices :=
  (List.mergeSort_perm _ _).trans (L.order_perm devices)

@[simp] theorem toDevice_row (L : Listing) (d : Device) : (L.row d).toDevice = .ok d := by
  by_cases h : L.dotted d <;>
    simp [row, h, DeviceRow.toDevice, WireAddress.resolve, Address.trim_text, Except.map]

theorem devicesOf_rows (L : Listing) (devices : List Device) :
    Console.devicesOf (devices.map L.row) = Device.sort devices := by
  have h : (fun r : DeviceRow => r.toDevice.toOption) ∘ L.row = some := by
    funext d
    rw [Function.comp_apply, toDevice_row]
    rfl
  rw [Console.devicesOf, List.filterMap_map, h, List.filterMap_some]

end Listing

/-- What becomes of a flip: whether the backend applies it, and what the caller hears. -/
structure Fate where
  applied : Bool
  outcome : Outcome

namespace Fate

/-- The flip is applied and reported as a success. -/
def Succeeds (f : Fate) : Prop :=
  f.applied = true ∧ ∃ code body, f.outcome = .answer code body ∧ Status.isSuccess code = true

/-- The flip is reported as failed, whether it was applied or not. -/
def Fails (f : Fate) : Prop :=
  ∀ code body, f.outcome = .answer code body → Status.isSuccess code = false

end Fate

namespace Table

def receive (t : Table) (f : Fate) (as : List Address) : Table :=
  if f.applied then t.flip as else t

end Table

namespace Listing

def asksFor (q : Request) (method : Method) (endpoint : String) : Bool :=
  q.method = method && ('/' :: endpoint.toList).isSuffixOf q.url.path.toList

def serve (L : Listing) (f : Fate) (q : Request) (t : Table) : Outcome × Table :=
  if asksFor q .get "devices" then (.answer 200 (L.body t), t)
  else if asksFor q .put "devices/update-provisioning" then
    match q.body.bind ProvisionBody.ofJson? with
    | some b => (f.outcome, t.receive f (b.addresses.map Address.mk))
    | none => (.answer 400 "", t)
  else (Script.noRoute, t)

end Listing

namespace Console

theorem asksFor_listRequest (c : Console) :
    Listing.asksFor c.listRequest .get "devices" = true := by
  have h : ('/' :: "devices".toList) <:+ c.listRequest.url.path.toList :=
    Client.Resource.devices.suffix_endpoint c.client
  simpa [Listing.asksFor, listRequest] using h

theorem asksFor_flipRequest (c : Console) (as : List Address) :
    Listing.asksFor (c.flipRequest as) .put "devices/update-provisioning" = true := by
  have h : ('/' :: "devices/update-provisioning".toList) <:+ (c.flipRequest as).url.path.toList :=
    Client.Resource.provisioning.suffix_endpoint c.client
  simpa [Listing.asksFor, flipRequest] using h

theorem serve_listRequest (c : Console) (L : Listing) (f : Fate) (t : Table) :
    L.serve f c.listRequest t = (.answer 200 (L.body t), t) := by
  rw [Listing.serve, if_pos c.asksFor_listRequest]

theorem serve_flipRequest (c : Console) (L : Listing) (f : Fate) (t : Table)
    (as : List Address) : L.serve f (c.flipRequest as) t = (f.outcome, t.receive f as) := by
  have hget : Listing.asksFor (c.flipRequest as) .get "devices" = false := rfl
  have hbody : (c.flipRequest as).body.bind ProvisionBody.ofJson? =
      some (ProvisionBody.ofAddresses as) := ProvisionBody.ofJson?_toJson _
  rw [Listing.serve, hget, if_neg Bool.false_ne_true, if_pos (c.asksFor_flipRequest as), hbody]
  simp [ProvisionBody.ofAddresses, Function.comp_def]

/-- What a caller knows after a listing is the table, sorted. -/
theorem listed_body (c : Console) (L : Listing) (t : Table) :
    c.listed (.answer 200 (L.body t)) = .ok (Device.sort (L.order t.devices)) := by
  have hread := Client.readRows_deviceList ((L.order t.devices).map L.row)
  have hok : Status.isSuccess 200 = true := rfl
  simp only [listed, Client.interpret, hok, ↓reduceIte, Listing.body, hread]
  rw [← L.devicesOf_rows]
  rfl

theorem flipped_of_succeeds (c : Console) (as : List Address) {f : Fate} (h : f.Succeeds) :
    c.flipped as f.outcome = .ok () := by
  obtain ⟨-, code, body, hout, hcode⟩ := h
  simp [flipped, Client.interpret, hout, hcode, Client.ignoreBody, Except.mapError]

theorem flipped_of_fails (c : Console) (as : List Address) {f : Fate} (h : f.Fails) :
    ∃ e, c.flipped as f.outcome = .error e := by
  cases ho : f.outcome with
  | answer code body =>
    simp [flipped, Client.interpret, h code body ho, Except.mapError]
  | refused => exact ⟨_, rfl⟩
  | dropped => exact ⟨_, rfl⟩
  | timedOut => exact ⟨_, rfl⟩

/-- A console of `http://backend/`. -/
def ofBackend : Console where
  client := { base := { scheme := "http", host := some "backend", path := "/api/" } }
  config := { server := { scheme := "http", host := some "backend", path := "/" } }

end Console

/-- Listed as stored, every address packed. -/
def Listing.plain : Listing where
  order := id
  order_perm _ := .refl _
  dotted _ := false

/-- Applied, and answered without a body. -/
def Fate.done : Fate := ⟨true, .answer 200 ""⟩

theorem Fate.done_succeeds : Fate.done.Succeeds := ⟨rfl, 200, "", rfl, rfl⟩

end DeviceConsole
