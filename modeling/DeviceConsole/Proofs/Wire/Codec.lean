import DeviceConsole.Proofs.Discovery.Request
import DeviceConsole.Proofs.Json.Exact
import DeviceConsole.Wire.Query

/-! What goes over the wire in both directions: each value is read back from the text it is sent as,
and of all JSON values that are read as it the one that is sent is the one they settle on. -/
namespace DeviceConsole

open Json (Exact IsRecord Optional Defaulted Fits FitsItems)

namespace Json

theorem exact_ids : Exact ofIds (toList? toInt64?) := exact_int64.list

theorem fits_int64 (n : Int64) (depth : Nat) : Fits depth .all (.int n.toInt) := by
  simpa [Fits] using Decimal.toInt_bounds n

/-- Naturals of 32 bits are sent as integers that the reader holds. -/
theorem fits_ofNat {n : Nat} (h : n < 4294967296) (depth : Nat) : Fits depth .all (.ofNat n) := by
  have htwo : twoTo 63 = 9223372036854775808 := by decide
  have hlimit : significandLimit = 18446744073709551615 := rfl
  simp only [Fits, ofNat]
  omega

theorem fits_uint32 (n : UInt32) (depth : Nat) : Fits depth .all (.ofNat n.toNat) :=
  fits_ofNat n.toNat_lt depth

theorem fits_uint16 (n : UInt16) (depth : Nat) : Fits depth .all (.ofNat n.toNat) :=
  fits_ofNat (n.toNat_lt.trans (by decide)) depth

/-- An object of values that are taken over is taken over itself. -/
theorem fits_obj {fields : List (String × Json)} {depth : Nat} (hpos : 0 < depth)
    (h : ∀ f ∈ fields, Fits (depth - 1) .all f.2) : Fits depth .all (.obj fields) := by
  have hfields : FitsFields (depth - 1) .all fields := by
    induction fields with
    | nil => trivial
    | cons f fs ih =>
      exact ⟨h f List.mem_cons_self, ih fun g hg => h g (List.mem_cons_of_mem _ hg)⟩
  exact ⟨rfl, hpos, hfields⟩

theorem fits_list {α : Type} {encode : α → Json} {depth : Nat} (hpos : 0 < depth)
    (h : ∀ a, Fits (depth - 1) .all (encode a)) (as : List α) :
    Fits depth .all (.arr (as.map encode)) := by
  have hitems (i : Nat) : FitsItems (depth - 1) .all i (as.map encode) := by
    induction as generalizing i with
    | nil => trivial
    | cons a as ih => exact ⟨h a, ih (i + 1)⟩
  exact ⟨rfl, hpos, hitems 0⟩

end Json

/-! ### Values as they may be written -/

theorem WireAddress.exact : Exact toJson ofJson? := fun j w => by
  cases w with
  | packed n =>
    have hn := Json.exact_uint32 j n
    cases j with
    | str s => exact iff_of_false (by simp [ofJson?]) (by simp [toJson, Json.ofNat])
    | _ => simpa [ofJson?, toJson] using hn
  | text t => cases j <;> simp [ofJson?, toJson]

theorem DeviceIps.exact : Exact toJson ofJson? := fun j ips => by
  cases ips with
  | addresses ns =>
    have hns := Json.exact_uint32.list j ns
    cases j with
    | str s => exact iff_of_false (by simp [ofJson?]) (by simp [toJson])
    | _ => simpa [ofJson?, toJson] using hns
  | cidr t => cases j <;> simp [ofJson?, toJson]

/-- A listed device. Its credential may be left out or `null`, and its state may be left out. -/
inductive DeviceRow.Written : Json → DeviceRow → Prop
  | record {j : Json} {r : DeviceRow} {credential provisioned : Option Json}
      (fields : IsRecord fields j [some r.ip.toJson, credential, provisioned])
      (isCredential : Optional (fun id : Int64 => .int id.toInt) credential r.credentialId)
      (isProvisioned : Defaulted .bool false provisioned r.provisioned) : Written j r

theorem DeviceRow.ofJson?_eq_some_iff (j : Json) (r : DeviceRow) :
    ofJson? j = some r ↔ Written j r := by
  constructor
  · intro h
    obtain ⟨values, hvalues, h⟩ := Option.bind_eq_some_iff.mp h
    have hrecord := Json.record?_eq_some_iff.mp hvalues
    split at h
    · simp only [Option.bind_eq_bind, Option.bind_eq_some_iff, Option.some.injEq,
        WireAddress.exact.required, Json.optional_iff Json.exact_int64 rfl,
        Json.exact_bool.defaulted] at h
      obtain ⟨ip, rfl, credentialId, hcredential, provisioned, hprovisioned, rfl⟩ := h
      exact .record hrecord hcredential hprovisioned
    · cases h
  · rintro ⟨hrecord, hcredential, hprovisioned⟩
    simp [ofJson?, Json.record?_eq_some_iff.mpr hrecord, Json.required?, WireAddress.ofJson?_toJson,
      (Json.optional_iff Json.exact_int64 rfl).mpr hcredential,
      Json.exact_bool.defaulted.mpr hprovisioned]

/-- A listed profile. All of its fields but the id may be left out. -/
inductive DiscoveryRow.Written : Json → DiscoveryRow → Prop
  | record {j : Json} {r : DiscoveryRow} {ips credentials isCidr : Option Json}
      (fields : IsRecord fields j [some (.int r.id.toInt), ips, credentials, isCidr])
      (isIps : Defaulted (fun ips => .arr (ips.map WireAddress.toJson)) [] ips r.ips)
      (isCredentials : Defaulted Json.ofIds [] credentials r.credentialIds)
      (isIsCidr : Defaulted .bool false isCidr r.isCidr) : Written j r

theorem DiscoveryRow.ofJson?_eq_some_iff (j : Json) (r : DiscoveryRow) :
    ofJson? j = some r ↔ Written j r := by
  constructor
  · intro h
    obtain ⟨values, hvalues, h⟩ := Option.bind_eq_some_iff.mp h
    have hrecord := Json.record?_eq_some_iff.mp hvalues
    split at h
    · simp only [Option.bind_eq_bind, Option.bind_eq_some_iff, Option.some.injEq,
        Json.exact_int64.required, WireAddress.exact.list.defaulted, Json.exact_ids.defaulted,
        Json.exact_bool.defaulted] at h
      obtain ⟨id, rfl, ips, hips, credentialIds, hcredentials, isCidr, hcidr, rfl⟩ := h
      exact .record hrecord hips hcredentials hcidr
    · cases h
  · rintro ⟨hrecord, hips, hcredentials, hcidr⟩
    simp [ofJson?, Json.record?_eq_some_iff.mpr hrecord, Json.required?,
      Json.exact_int64.decode_encode, WireAddress.exact.list.defaulted.mpr hips,
      Json.exact_ids.defaulted.mpr hcredentials, Json.exact_bool.defaulted.mpr hcidr]

/-- A profile as it is submitted, with all of its fields. -/
def DiscoveryBody.Written (j : Json) (b : DiscoveryBody) : Prop :=
  IsRecord ["device_ips", "credential_profile_ids", "is_cidr"] j
    [some b.ips.toJson, some (.ofIds b.credentialIds), some (.bool b.isCidr)]

theorem DiscoveryBody.ofJson?_eq_some_iff (j : Json) (b : DiscoveryBody) :
    ofJson? j = some b ↔ Written j b := by
  constructor
  · intro h
    obtain ⟨values, hvalues, h⟩ := Option.bind_eq_some_iff.mp h
    have hrecord := Json.record?_eq_some_iff.mp hvalues
    split at h
    · simp only [Option.bind_eq_bind, Option.bind_eq_some_iff, Option.some.injEq,
        DeviceIps.exact.required, Json.exact_ids.required, Json.exact_bool.required] at h
      obtain ⟨ips, rfl, credentialIds, rfl, isCidr, rfl, rfl⟩ := h
      exact hrecord
    · cases h
  · intro h
    simp [ofJson?, Json.record?_eq_some_iff.mpr h, Json.required?, DeviceIps.exact.decode_encode,
      Json.exact_ids.decode_encode, Json.exact_bool.decode_encode]

/-- The addresses of a flip. -/
def ProvisionBody.Written (j : Json) (b : ProvisionBody) : Prop :=
  IsRecord ["provision_update_ips"] j [some (.arr (b.addresses.map fun n => .ofNat n.toNat))]

theorem ProvisionBody.ofJson?_eq_some_iff (j : Json) (b : ProvisionBody) :
    ofJson? j = some b ↔ Written j b := by
  constructor
  · intro h
    obtain ⟨values, hvalues, h⟩ := Option.bind_eq_some_iff.mp h
    have hrecord := Json.record?_eq_some_iff.mp hvalues
    split at h
    · simp only [Option.bind_eq_bind, Option.bind_eq_some_iff, Option.some.injEq,
        Json.exact_uint32.list.required] at h
      obtain ⟨addresses, rfl, rfl⟩ := h
      exact hrecord
    · cases h
  · intro h
    simp [ofJson?, Json.record?_eq_some_iff.mpr h, Json.required?,
      Json.exact_uint32.list.decode_encode]

/-- A counter query, with all of its fields. -/
def QueryBody.Written (j : Json) (b : QueryBody) : Prop :=
  IsRecord fields j
    [some (.int b.start.toInt), some (.int b.stop.toInt),
      some (.arr (b.objects.map fun n => .ofNat n.toNat)), some (.str b.vertical),
      some (.str b.horizontal), some (.ofNat b.interval.toNat), some (.ofNat b.counter.toNat)]

theorem QueryBody.ofJson?_eq_some_iff (j : Json) (b : QueryBody) :
    ofJson? j = some b ↔ Written j b := by
  constructor
  · intro h
    obtain ⟨values, hvalues, h⟩ := Option.bind_eq_some_iff.mp h
    have hrecord := Json.record?_eq_some_iff.mp hvalues
    split at h
    · simp only [Option.bind_eq_bind, Option.bind_eq_some_iff, Option.some.injEq,
        Json.exact_int64.required, Json.exact_uint32.list.required, Json.exact_text.required,
        Json.exact_uint32.required, Json.exact_uint16.required] at h
      obtain ⟨start, rfl, stop, rfl, objects, rfl, vertical, rfl, horizontal, rfl, interval, rfl,
        counter, rfl, rfl⟩ := h
      exact hrecord
    · cases h
  · intro h
    simp [ofJson?, Json.record?_eq_some_iff.mpr h, Json.required?, Json.exact_int64.decode_encode,
      Json.exact_uint32.list.decode_encode, Json.exact_text.decode_encode,
      Json.exact_uint32.decode_encode, Json.exact_uint16.decode_encode]

/-! ### Values as they are sent -/

theorem DeviceIps.fits_toJson (ips : DeviceIps) {depth : Nat} (h : 0 < depth) :
    Fits depth .all ips.toJson := by
  cases ips with
  | addresses ns => exact Json.fits_list h (fun n => Json.fits_uint32 n _) ns
  | cidr t => rfl

theorem Json.fits_ids (ids : List Int64) {depth : Nat} (h : 0 < depth) :
    Fits depth .all (Json.ofIds ids) :=
  Json.fits_list h (fun id => Json.fits_int64 id _) ids

theorem DeviceRow.fits (r : DeviceRow) : Fits Json.depthLimit .all r.toJson := by
  have hcredential : Fits 126 .all (.ofOption (fun id => .int id.toInt) r.credentialId) := by
    cases r.credentialId with
    | none => trivial
    | some id => exact Json.fits_int64 id _
  refine Json.fits_obj (by decide) fun f hf => ?_
  simp only [List.mem_cons, List.not_mem_nil, or_false] at hf
  obtain rfl | rfl | rfl := hf
  · exact r.ip.fits_toJson _
  · exact hcredential
  · trivial

theorem DiscoveryBody.fits (b : DiscoveryBody) : Fits Json.depthLimit .all b.toJson := by
  refine Json.fits_obj (by decide) fun f hf => ?_
  simp only [List.mem_cons, List.not_mem_nil, or_false] at hf
  obtain rfl | rfl | rfl := hf
  · exact b.ips.fits_toJson (by decide)
  · exact Json.fits_ids b.credentialIds (by decide)
  · trivial

theorem DiscoveryRow.fits (r : DiscoveryRow) {depth : Nat} (h : 1 < depth) :
    Fits depth .all r.toJson := by
  refine Json.fits_obj (by omega) fun f hf => ?_
  simp only [List.mem_cons, List.not_mem_nil, or_false] at hf
  obtain rfl | rfl | rfl | rfl := hf
  · exact Json.fits_int64 r.id _
  · exact Json.fits_list (by omega) (fun w => w.fits_toJson _) r.ips
  · exact Json.fits_ids r.credentialIds (by omega)
  · trivial

theorem ProvisionBody.fits (b : ProvisionBody) : Fits Json.depthLimit .all b.toJson := by
  refine Json.fits_obj (by decide) fun f hf => ?_
  rw [List.mem_singleton.mp hf]
  exact Json.fits_list (by decide) (fun n => Json.fits_uint32 n _) b.addresses

theorem QueryBody.fits (b : QueryBody) : Fits Json.depthLimit .all b.toJson := by
  refine Json.fits_obj (by decide) fun f hf => ?_
  simp only [List.mem_cons, List.not_mem_nil, or_false] at hf
  obtain rfl | rfl | rfl | rfl | rfl | rfl | rfl := hf
  · exact Json.fits_int64 b.start _
  · exact Json.fits_int64 b.stop _
  · exact Json.fits_list (by decide) (fun n => Json.fits_uint32 n _) b.objects
  · rfl
  · rfl
  · exact Json.fits_uint32 b.interval _
  · exact Json.fits_uint16 b.counter _

theorem DiscoveryRow.ofJson?_toJson (r : DiscoveryRow) : ofJson? r.toJson = some r := by
  simp [toJson, ofJson?, fields, Json.record?, Json.single?, Json.required?, Json.withDefault?,
    Json.exact_int64.decode_encode, WireAddress.exact.list.decode_encode,
    Json.exact_ids.decode_encode, Json.exact_bool.decode_encode]

theorem QueryBody.ofJson?_toJson (b : QueryBody) : ofJson? b.toJson = some b := by
  simp [toJson, ofJson?, fields, Json.record?, Json.single?, Json.required?,
    Json.exact_int64.decode_encode, Json.exact_uint32.list.decode_encode,
    Json.exact_text.decode_encode, Json.exact_uint32.decode_encode,
    Json.exact_uint16.decode_encode]

/-- How the values of a type are sent and read. `Written j a` says that `j` is one of the ways in
which `a` may be written. -/
structure Json.IsCodec {α : Type} (encode : α → Json) (decode : Json → Option α)
    (Written : Json → α → Prop) : Prop where
  decode_iff : ∀ j a, decode j = some a ↔ Written j a
  decode_encode : ∀ a, decode (encode a) = some a
  /-- A value is read back from the text it is sent as. -/
  decode_text : ∀ a, (Json.read .all (encode a).compact).toOption.bind decode = some a
  /-- Whatever a value was written as, it is what it is sent as that stays from then on. -/
  settles : ∀ j a, Written j a →
    decode (encode a) = some a ∧ (decode (encode a)).map encode = some (encode a)

theorem Json.isCodec_of_fits {α : Type} {encode : α → Json} {decode : Json → Option α}
    {Written : Json → α → Prop} (hwritten : ∀ j a, decode j = some a ↔ Written j a)
    (hsent : ∀ a, decode (encode a) = some a) (hfits : ∀ a, Fits depthLimit .all (encode a)) :
    IsCodec encode decode Written where
  decode_iff := hwritten
  decode_encode := hsent
  decode_text a := by
    rw [read_compact (hfits a)]
    exact hsent a
  settles _ a _ := ⟨hsent a, congrArg (Option.map encode) (hsent a)⟩

/-- Everything that is both sent and read is read as it was sent, however it is written, and no
value is taken for one of another form: what is a text stays a text, and a list stays a list. -/
theorem wire_codecs :
    Json.IsCodec WireAddress.toJson WireAddress.ofJson? (fun j w => j = w.toJson) ∧
      Json.IsCodec DeviceIps.toJson DeviceIps.ofJson? (fun j ips => j = ips.toJson) ∧
      Json.IsCodec DeviceRow.toJson DeviceRow.ofJson? DeviceRow.Written ∧
      Json.IsCodec DiscoveryBody.toJson DiscoveryBody.ofJson? DiscoveryBody.Written ∧
      Json.IsCodec DiscoveryRow.toJson DiscoveryRow.ofJson? DiscoveryRow.Written ∧
      Json.IsCodec ProvisionBody.toJson ProvisionBody.ofJson? ProvisionBody.Written ∧
      Json.IsCodec QueryBody.toJson QueryBody.ofJson? QueryBody.Written ∧
      (∀ s, WireAddress.ofJson? (.str s) = some (.text s)) ∧
      (∀ j n, WireAddress.ofJson? j = some (.packed n) → ∃ i, j = .int i) ∧
      (∀ s, DeviceIps.ofJson? (.str s) = some (.cidr s)) ∧
      (∀ j ns, DeviceIps.ofJson? j = some (.addresses ns) → ∃ items, j = .arr items) ∧
      DeviceIps.ofJson? (.arr []) = some (.addresses []) :=
  ⟨Json.isCodec_of_fits WireAddress.exact WireAddress.ofJson?_toJson fun w => w.fits_toJson _,
    Json.isCodec_of_fits DeviceIps.exact DeviceIps.exact.decode_encode
      fun ips => ips.fits_toJson (by decide),
    Json.isCodec_of_fits DeviceRow.ofJson?_eq_some_iff DeviceRow.ofJson?_toJson DeviceRow.fits,
    Json.isCodec_of_fits DiscoveryBody.ofJson?_eq_some_iff DiscoveryBody.ofJson?_toJson
      DiscoveryBody.fits,
    Json.isCodec_of_fits DiscoveryRow.ofJson?_eq_some_iff DiscoveryRow.ofJson?_toJson
      fun r => r.fits (by decide),
    Json.isCodec_of_fits ProvisionBody.ofJson?_eq_some_iff ProvisionBody.ofJson?_toJson
      ProvisionBody.fits,
    Json.isCodec_of_fits QueryBody.ofJson?_eq_some_iff QueryBody.ofJson?_toJson QueryBody.fits,
    fun _ => rfl, fun _ n h => ⟨n.toNat, (WireAddress.exact _ _).mp h⟩, fun _ => rfl,
    fun _ ns h => ⟨_, (DeviceIps.exact _ _).mp h⟩, rfl⟩

end DeviceConsole
