import DeviceConsole.Client
import DeviceConsole.Proofs.Address
import DeviceConsole.Proofs.Json.Record
import DeviceConsole.Proofs.Json.Roundtrip
import Mathlib.Data.List.TakeWhile

/-! Device rows on the wire: a row reads back from its JSON value, and a printed device list reads
back as its rows. -/
namespace DeviceConsole

theorem Decimal.toInt_bounds (n : Int64) :
    -(twoTo 63 : Int) ≤ n.toInt ∧ n.toInt ≤ Json.significandLimit := by
  have h1 : -9223372036854775808 ≤ n.toInt := n.le_toInt
  have h2 : n.toInt < 9223372036854775808 := n.toInt_lt
  have h3 : twoTo 63 = 9223372036854775808 := by decide
  have h4 : Json.significandLimit = 18446744073709551615 := rfl
  omega

namespace WireAddress

theorem ofJson?_toJson (w : WireAddress) : ofJson? w.toJson = some w := by
  cases w with
  | packed n => simpa [toJson, ofJson?, Json.ofNat] using Json.toUInt32?_ofNat n
  | text s => rfl

theorem fits_toJson (w : WireAddress) (depth : Nat) : Json.Fits depth .all w.toJson := by
  cases w with
  | packed n =>
    have := n.toNat_lt
    have h1 : twoTo 63 = 9223372036854775808 := by decide
    have h2 : Json.significandLimit = 18446744073709551615 := rfl
    simp only [toJson, Json.ofNat, Json.Fits]
    omega
  | text s => simp [toJson, Json.Fits, Json.Want.isNothing]

end WireAddress

namespace DeviceRow

theorem ofJson?_toJson (r : DeviceRow) : ofJson? r.toJson = some r := by
  obtain ⟨ip, credentialId, provisioned⟩ := r
  cases credentialId <;>
    simp [toJson, ofJson?, fields, Json.record?, Json.single?, Json.required?, Json.withDefault?,
      Json.toOption?, Json.toInt64?, Json.toBool?, Json.ofOption, WireAddress.ofJson?_toJson,
      Decimal.int64?_toInt]

/-- What the reader of a device list wants of each row. -/
def want : Json.Want := .record (fields.map fun f => (f, .all))

theorem fits_toJson (r : DeviceRow) {depth : Nat} (h : 0 < depth) :
    Json.Fits depth want r.toJson := by
  obtain ⟨ip, credentialId, provisioned⟩ := r
  have hip := ip.fits_toJson (depth - 1)
  cases credentialId with
  | none =>
    simpa [toJson, want, fields, Json.Fits, Json.FitsFields, Json.Want.isNothing,
      Json.Want.ofField, Json.ofOption, h] using hip
  | some id =>
    simpa [toJson, want, fields, Json.Fits, Json.FitsFields, Json.Want.isNothing,
      Json.Want.ofField, Json.ofOption, h, Decimal.toInt_bounds id] using hip

end DeviceRow

def deviceList (rows : List DeviceRow) : Json :=
  .obj [("devices", .arr (rows.map DeviceRow.toJson))]

theorem fitsItems_rows (rows : List DeviceRow) {depth : Nat} (h : 0 < depth) (i : Nat) :
    Json.FitsItems depth (.items DeviceRow.want) i (rows.map DeviceRow.toJson) := by
  induction rows generalizing i with
  | nil => trivial
  | cons r rows ih => exact ⟨r.fits_toJson h, ih (i + 1)⟩

theorem fits_deviceList (rows : List DeviceRow) :
    Json.Fits Json.depthLimit (.record [("devices", .items DeviceRow.want)]) (deviceList rows) := by
  have := fitsItems_rows rows (by decide : 0 < 125) 0
  simpa [deviceList, Json.Fits, Json.FitsFields, Json.Want.isNothing, Json.Want.ofField,
    Json.depthLimit] using this

theorem Text.trimChars_ne_nil {c : Char} {cs : List Char} (h : isBlank c = false) :
    trimChars (c :: cs) ≠ [] := by
  intro he
  rw [trimChars_eq_nil_iff.mp he c (by simp)] at h
  exact Bool.noConfusion h

theorem Json.trim_compact_obj (fields : List (String × Json)) :
    (Text.trim (Json.compact (.obj fields))).isEmpty = false := by
  rw [Text.trim, Json.compact_obj_toList]
  simpa using Text.trimChars_ne_nil (c := '\x7b') (by decide)

namespace Client

/-- A printed object that fits and decodes is the value a client gets. -/
theorem readBody_compact {α : Type} {want : Json.Want} {decode : Json → Option α} {a : α}
    {fields : List (String × Json)} (hf : Json.Fits Json.depthLimit want (.obj fields))
    (hd : decode (.obj fields) = some a) :
    readBody want decode (Json.compact (.obj fields)) = .ok a := by
  rw [readBody, Json.trim_compact_obj]
  simp [Json.read_compact hf, hd]

/-- Listed rows come back as they were sent. -/
theorem readRows_deviceList (rows : List DeviceRow) :
    readRows "devices" DeviceRow.fields DeviceRow.ofJson? (Json.compact (deviceList rows)) =
      .ok rows := by
  have hrows : Json.toList? DeviceRow.ofJson? (.arr (rows.map DeviceRow.toJson)) = some rows :=
    Json.mapM_decode DeviceRow.ofJson?_toJson rows
  apply readBody_compact (fits_deviceList rows)
  simp [Json.toOption?, Json.record?, Json.single?, Json.withDefault?, hrows]

end Client
end DeviceConsole
