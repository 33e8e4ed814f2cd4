import DeviceConsole.Proofs.Json.Field
import DeviceConsole.Proofs.Wire.Spelling
import DeviceConsole.Wire.Device

/-! Rows of the listings as judgments on JSON values, whatever stands in the place of an address. A
row is read where each address is a text or an integer of 32 bits, and makes something where each of
them can be located. -/
namespace DeviceConsole

open Json (HasAtMost Optional Defaulted)

/-! ### Addresses -/

/-- What may stand for an address on the wire. -/
inductive IsWireAddress : Json → Prop
  | packed {i : Int} (nonneg : 0 ≤ i) (le_max : i ≤ 4294967295) : IsWireAddress (.int i)
  | text (s : String) : IsWireAddress (.str s)

/-- The value stands for the address: packed, or as a text that is one once it is trimmed. -/
inductive Locates : Json → Address → Prop
  | packed {i : Int} {a : Address} (h : i = a.toNat) : Locates (.int i) a
  | text {s : String} {a : Address} (h : Address.parse (Text.trim s) = .ok a) : Locates (.str s) a

theorem Locates.unique {j : Json} {a b : Address} (h : Locates j a) (h' : Locates j b) :
    a = b := by
  cases h with
  | packed h =>
    cases h' with
    | packed h' => exact Address.toNat_inj.mp (Int.ofNat_inj.mp (h.symm.trans h'))
  | text h =>
    cases h' with
    | text h' => exact Except.ok.inj (h.symm.trans h')

namespace WireAddress

variable {j : Json} {w : WireAddress} {a : Address}

theorem ofJson?_packed {i : Int} (nonneg : 0 ≤ i) (le_max : i ≤ 4294967295) :
    ofJson? (.int i) = some (.packed (UInt32.ofNat i.toNat)) := by
  simp [ofJson?, Json.toUInt32?, Json.toNat?, nonneg, le_max]

theorem ofJson?_eq_none_iff : ofJson? j = none ↔ ¬ IsWireAddress j := by
  constructor
  · rintro h (⟨nonneg, le_max⟩ | s)
    · rw [ofJson?_packed nonneg le_max] at h
      cases h
    · cases h
  · intro h
    cases j with
    | str s => exact absurd (.text s) h
    | int i =>
      have hi : 0 ≤ i → 4294967295 < i := fun nonneg =>
        not_le.mp fun le_max => h (.packed nonneg le_max)
      simpa [ofJson?, Json.toUInt32?, Json.toNat?] using hi
    | _ => rfl

theorem toNat_ofNat_toNat {i : Int} (nonneg : 0 ≤ i) (le_max : i ≤ 4294967295) :
    ((Address.mk (UInt32.ofNat i.toNat)).toNat : Int) = i := by
  have hlt : i.toNat < UInt32.size := by
    simp only [UInt32.size]
    omega
  rw [Address.toNat, UInt32.toNat_ofNat_of_lt' hlt, Int.toNat_of_nonneg nonneg]

/-- An address that is read is resolved to what its JSON value stands for. -/
theorem resolve_eq_ok_iff (h : ofJson? j = some w) : w.resolve = .ok a ↔ Locates j a := by
  have hj : IsWireAddress j := by
    refine Classical.not_not.mp fun hj => ?_
    rw [ofJson?_eq_none_iff.mpr hj] at h
    cases h
  obtain ⟨nonneg, le_max⟩ | s := hj
  · rw [ofJson?_packed nonneg le_max] at h
    cases h
    have hi := toNat_ofNat_toNat nonneg le_max
    constructor
    · intro ha
      cases ha
      exact .packed hi.symm
    · rintro ⟨h⟩
      have ha : (⟨UInt32.ofNat _⟩ : Address) = a :=
        Address.toNat_inj.mp (Int.ofNat_inj.mp (hi.trans h))
      exact congrArg Except.ok ha
  · cases h
    constructor
    · exact fun ha => .text ha
    · rintro ⟨⟩
      assumption

end WireAddress

/-! ### Kinds of rows -/

/-- How the rows of a kind are read: the sound ones can be decoded, and make what they stand for or
nothing; the others cannot. -/
structure Reads {X R D : Type} (Is : Json → X → Prop) (Sound : X → Prop) (Makes : X → D → Prop)
    (decode : Json → Option R) (make : R → Option D) : Prop where
  sound : ∀ {j x}, Is j x → Sound x → ∃ r, decode j = some r ∧ ∀ d, make r = some d ↔ Makes x d
  unsound : ∀ {j x}, Is j x → ¬ Sound x → decode j = none

/-! ### Devices -/

/-- A listed device with whatever stands in the place of its address. -/
structure ListedDevice where
  ip : Json
  credentialId : Option Int64
  provisioned : Bool

/-- The row of a device, all of whose fields but the address are of their types. -/
inductive IsDeviceRow : Json → ListedDevice → Prop
  | record {fields : List (String × Json)} {x : ListedDevice} {credential provisioned : Option Json}
      (atIp : HasAtMost fields "ip" (some x.ip))
      (atCredential : HasAtMost fields "credential_id" credential)
      (atProvisioned : HasAtMost fields "is_provisioned" provisioned)
      (isCredential : Optional (fun id : Int64 => .int id.toInt) credential x.credentialId)
      (isProvisioned : Defaulted .bool false provisioned x.provisioned) :
      IsDeviceRow (.obj fields) x

/-- The device a row makes. -/
structure MakesDevice (x : ListedDevice) (d : Device) : Prop where
  address : Locates x.ip d.address
  credentialId : d.credentialId = x.credentialId
  provisioned : d.provisioned = x.provisioned

theorem MakesDevice.unique {x : ListedDevice} {d e : Device} (h : MakesDevice x d)
    (h' : MakesDevice x e) : d = e := by
  cases d
  cases e
  simp only [Device.mk.injEq]
  exact ⟨h.address.unique h'.address, h.credentialId.trans h'.credentialId.symm,
    h.provisioned.trans h'.provisioned.symm⟩

theorem DeviceRow.ofJson?_of_isDeviceRow {j : Json} {x : ListedDevice} (h : IsDeviceRow j x) :
    ofJson? j = (WireAddress.ofJson? x.ip).map fun ip =>
      { ip, credentialId := x.credentialId, provisioned := x.provisioned } := by
  obtain ⟨atIp, atCredential, atProvisioned, isCredential, isProvisioned⟩ := h
  have hrecord := Json.record?_obj_iff.mpr
    (.cons atIp (.cons atCredential (.cons atProvisioned .nil)))
  have hcredential :=
    (Json.optional_iff (fun _ _ => Json.toInt64?_eq_some_iff) rfl).mpr isCredential
  have hprovisioned := isProvisioned.withDefault? Json.toBool?_bool
  simp only [ofJson?, fields, hrecord, hcredential, hprovisioned, Json.required?,
    Option.bind_eq_bind, Option.bind_some]
  cases WireAddress.ofJson? x.ip <;> rfl

theorem reads_deviceRow :
    Reads IsDeviceRow (fun x => IsWireAddress x.ip) MakesDevice DeviceRow.ofJson?
      fun r => r.toDevice.toOption where
  sound {j x} hrow hsound := by
    obtain ⟨ip, hip⟩ := Option.ne_none_iff_exists'.mp fun h =>
      WireAddress.ofJson?_eq_none_iff.mp h hsound
    refine ⟨_, by rw [DeviceRow.ofJson?_of_isDeviceRow hrow, hip]; rfl, fun d => ?_⟩
    constructor
    · intro hd
      cases ha : ip.resolve with
      | error e => simp [DeviceRow.toDevice, ha, Except.map, Except.toOption] at hd
      | ok a =>
        simp only [DeviceRow.toDevice, ha, Except.map, Except.toOption, Option.some.injEq] at hd
        subst hd
        exact ⟨(WireAddress.resolve_eq_ok_iff hip).mp ha, rfl, rfl⟩
    · rintro ⟨haddress, hcredential, hprovisioned⟩
      have ha := (WireAddress.resolve_eq_ok_iff hip).mpr haddress
      simp [DeviceRow.toDevice, ha, Except.map, Except.toOption, ← hcredential, ← hprovisioned]
  unsound hrow hunsound := by
    rw [DeviceRow.ofJson?_of_isDeviceRow hrow, WireAddress.ofJson?_eq_none_iff.mpr hunsound]
    rfl

/-! ### Discovery profiles -/

/-- A listed profile with whatever stands in the places of its addresses. -/
structure ListedProfile where
  id : Int64
  ips : List Json
  credentialIds : List Int64
  isCidr : Bool

/-- The row of a profile, all of whose fields are of their types but for the addresses. -/
inductive IsProfileRow : Json → ListedProfile → Prop
  | record {fields : List (String × Json)} {x : ListedProfile}
      {ips credentials isCidr : Option Json}
      (atId : HasAtMost fields "id" (some (.int x.id.toInt)))
      (atIps : HasAtMost fields "device_ips" ips)
      (atCredentials : HasAtMost fields "credential_profile_ids" credentials)
      (atIsCidr : HasAtMost fields "is_cidr" isCidr) (isIps : Defaulted .arr [] ips x.ips)
      (isCredentials : Defaulted Json.ofIds [] credentials x.credentialIds)
      (isIsCidr : Defaulted .bool false isCidr x.isCidr) : IsProfileRow (.obj fields) x

/-- The profile a row makes, all of whose addresses have to be located. -/
structure MakesProfile (x : ListedProfile) (p : DiscoveryProfile) : Prop where
  id : p.id = x.id
  located : ∀ ip ∈ x.ips, ∃ a, Locates ip a
  targets : ∃ set, p.targets = .addresses set ∧ ∀ a, a ∈ set ↔ ∃ ip ∈ x.ips, Locates ip a
  credentialIds : p.credentialIds = x.credentialIds
  isCidr : p.isCidr = x.isCidr

theorem toList?_ofIds (ids : List Int64) :
    Json.toList? Json.toInt64? (Json.ofIds ids) = some ids := by
  have hid (id : Int64) : Json.toInt64? (.int id.toInt) = some id := Decimal.int64?_toInt id
  exact Json.mapM_decode hid ids

theorem DiscoveryRow.ofJson?_of_isProfileRow {j : Json} {x : ListedProfile}
    (h : IsProfileRow j x) :
    ofJson? j = (x.ips.mapM WireAddress.ofJson?).map fun ips =>
      { id := x.id, ips, credentialIds := x.credentialIds, isCidr := x.isCidr } := by
  obtain @⟨_, _, ips, _, _, atId, atIps, atCredentials, atIsCidr, isIps, isCredentials,
    isIsCidr⟩ := h
  have hrecord := Json.record?_obj_iff.mpr
    (.cons atId (.cons atIps (.cons atCredentials (.cons atIsCidr .nil))))
  have hid : Json.toInt64? (.int x.id.toInt) = some x.id := Decimal.int64?_toInt x.id
  have hips : Json.withDefault? (Json.toList? WireAddress.ofJson?) [] ips =
      x.ips.mapM WireAddress.ofJson? := by
    generalize x.ips = js at isIps
    cases isIps <;> rfl
  have hcredentials := isCredentials.withDefault? toList?_ofIds
  have hcidr := isIsCidr.withDefault? Json.toBool?_bool
  simp only [ofJson?, fields, hrecord, hid, hips, hcredentials, hcidr, Json.required?,
    Option.bind_eq_bind, Option.bind_some]
  cases x.ips.mapM WireAddress.ofJson? <;> rfl

theorem reads_profileRow :
    Reads IsProfileRow (fun x => ∀ ip ∈ x.ips, IsWireAddress ip) MakesProfile DiscoveryRow.ofJson?
      fun r => r.toProfile.toOption where
  sound {j x} hrow hsound := by
    obtain ⟨ws, hws⟩ := Option.ne_none_iff_exists'.mp fun h => by
      obtain ⟨ip, hip, hnone⟩ := mapM_none_iff.mp h
      exact WireAddress.ofJson?_eq_none_iff.mp hnone (hsound ip hip)
    have hread := mapM_some_iff.mp hws
    refine ⟨_, by rw [DiscoveryRow.ofJson?_of_isProfileRow hrow, hws]; rfl, fun p => ?_⟩
    have hlocated : (∀ ip ∈ x.ips, ∃ a, Locates ip a) ↔ ∀ w ∈ ws, ∃ a, w.resolve = .ok a :=
      forall_mem_congr hread fun _ _ h =>
        exists_congr fun _ => (WireAddress.resolve_eq_ok_iff h).symm
    have hmem (a : Address) : (∃ ip ∈ x.ips, Locates ip a) ↔ ∃ w ∈ ws, w.resolve = .ok a :=
      exists_mem_congr hread fun _ _ h => (WireAddress.resolve_eq_ok_iff h).symm
    have hset (a : Address) :
        a ∈ AddressSet.ofList (ws.filterMap fun w => w.resolve.toOption) ↔
          ∃ ip ∈ x.ips, Locates ip a := by
      simp only [AddressSet.mem_ofList, List.mem_filterMap, toOption_eq_some_iff, hmem]
    rw [toOption_eq_some_iff, DiscoveryRow.toProfile_eq_ok_iff, ← hlocated]
    constructor
    · rintro ⟨hall, rfl⟩
      exact ⟨rfl, hall, ⟨_, rfl, hset⟩, rfl, rfl⟩
    · rintro ⟨hid, hall, ⟨set, htargets, hmembers⟩, hids, hcidr⟩
      have heq : AddressSet.ofList (ws.filterMap fun w => w.resolve.toOption) = set :=
        AddressSet.ext_mem fun a => (hset a).trans (hmembers a).symm
      refine ⟨hall, ?_⟩
      cases p
      simp_all
  unsound {j x} hrow hunsound := by
    have hnone : x.ips.mapM WireAddress.ofJson? = none := by
      simp only [not_forall, exists_prop] at hunsound
      obtain ⟨ip, hip, hbad⟩ := hunsound
      exact mapM_none_iff.mpr ⟨ip, hip, WireAddress.ofJson?_eq_none_iff.mpr hbad⟩
    rw [DiscoveryRow.ofJson?_of_isProfileRow hrow, hnone]
    rfl

end DeviceConsole
