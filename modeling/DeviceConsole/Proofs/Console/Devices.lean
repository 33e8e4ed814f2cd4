import DeviceConsole.Proofs.Console.Listing

/-! The devices of a listing, told by its rows. Every row whose address can be read is shown once, in
the order of the addresses and for one address in that of the rows, so neither how the addresses are
spelled nor the order of different ones matters. -/
namespace DeviceConsole

/-! ### Rows -/

namespace WireAddress

variable {w : WireAddress} {a : Address}

/-- A text is read exactly where it is a dotted address with white space around. -/
theorem spells_iff : w.Spells a ↔ w.resolve = .ok a := by
  refine ⟨Spells.resolve, fun h => ?_⟩
  cases w with
  | packed n =>
    obtain rfl : ⟨n⟩ = a := Except.ok.inj h
    exact .packed
  | text s =>
    have hdotted : a.Dotted (Text.trimChars s.toList) := by
      simpa [Text.trim] using Address.parse_eq_ok_iff.mp h
    obtain ⟨before, after, hbefore, hafter, hs⟩ := Text.exists_padded s.toList
    rw [← String.ofList_toList (s := s), hs]
    exact .text hbefore hdotted hafter

theorem spells_text (a : Address) : Spells a (.text a.text) :=
  spells_iff.mpr (by rw [resolve, Address.trim_text, Address.parse_text])

end WireAddress

namespace DeviceRow

/-- The device a row stands for: its address is packed, or dotted with white space around. -/
structure StandsFor (r : DeviceRow) (d : Device) : Prop where
  spelled : r.ip.Spells d.address
  credentialId : d.credentialId = r.credentialId
  provisioned : d.provisioned = r.provisioned

/-- Another row for the same device, its address spelled in another way. -/
structure Respells (r r' : DeviceRow) : Prop where
  spelled : r.ip = r'.ip ∨ ∃ a, r.ip.Spells a ∧ r'.ip.Spells a
  credentialId : r.credentialId = r'.credentialId
  provisioned : r.provisioned = r'.provisioned

/-- The body of an answer is read as these rows. -/
def AreListedIn (rows : List DeviceRow) (body : String) : Prop :=
  Client.readRows "devices" fields ofJson? body = .ok rows

variable {r r' : DeviceRow} {d : Device}

theorem standsFor_iff : r.StandsFor d ↔ r.toDevice = .ok d := by
  constructor
  · rintro ⟨hspelled, hcredential, hprovisioned⟩
    rw [toDevice, hspelled.resolve, ← hcredential, ← hprovisioned]
    rfl
  · intro h
    cases hresolve : r.ip.resolve with
    | error e => simp [toDevice, hresolve, Except.map] at h
    | ok a =>
      simp only [toDevice, hresolve, Except.map, Except.ok.injEq] at h
      subst h
      exact ⟨WireAddress.spells_iff.mpr hresolve, rfl, rfl⟩

theorem toDevice_toOption_iff : r.toDevice.toOption = some d ↔ r.StandsFor d := by
  rw [toOption_eq_some_iff, standsFor_iff]

theorem Respells.standsFor (h : r.Respells r') : r.StandsFor d → r'.StandsFor d := by
  rintro ⟨hspelled, hcredential, hprovisioned⟩
  refine ⟨?_, hcredential.trans h.credentialId, hprovisioned.trans h.provisioned⟩
  obtain hsame | ⟨a, ha, ha'⟩ := h.spelled
  · exact hsame ▸ hspelled
  · obtain rfl : a = d.address := Except.ok.inj (ha.resolve.symm.trans hspelled.resolve)
    exact ha'

theorem Respells.symm (h : r.Respells r') : r'.Respells r where
  spelled := h.spelled.imp Eq.symm fun ⟨a, ha, ha'⟩ => ⟨a, ha', ha⟩
  credentialId := h.credentialId.symm
  provisioned := h.provisioned.symm

theorem Respells.toDevice (h : r.Respells r') :
    r.toDevice.toOption = r'.toDevice.toOption := by
  refine Option.ext fun d => ?_
  rw [toDevice_toOption_iff, toDevice_toOption_iff]
  exact ⟨h.standsFor, h.symm.standsFor⟩

end DeviceRow

/-! ### Listings -/

/-- A function that makes of each item what it stands for keeps these items. -/
theorem Keeps.filterMap {α β : Type} {Makes : α → β → Prop} {f : α → Option β}
    (hf : ∀ a b, f a = some b ↔ Makes a b) (as : List α) : Keeps Makes as (as.filterMap f) := by
  induction as with
  | nil => exact .nil
  | cons a as ih =>
    rw [List.filterMap_cons]
    cases ha : f a with
    | none => exact .skip (fun b hb => by simp [(hf a b).mpr hb] at ha) ih
    | some b => exact .keep ((hf a b).mp ha) ih

namespace Console

variable {rows rows' : List DeviceRow}

/-- The devices the rows stand for, in the order of the rows. -/
def located (rows : List DeviceRow) : List Device :=
  rows.filterMap fun r => r.toDevice.toOption

theorem keeps_located (rows : List DeviceRow) : Keeps DeviceRow.StandsFor rows (located rows) :=
  Keeps.filterMap (fun _ _ => DeviceRow.toDevice_toOption_iff) rows

theorem devicesOf_eq (rows : List DeviceRow) : devicesOf rows = Device.sort (located rows) := rfl

theorem devicesOf_perm (h : rows.Perm rows')
    (hdistinct : ((located rows).map (·.address)).Nodup) : devicesOf rows = devicesOf rows' :=
  StablySorted.eq_of_perm (fun _ _ => Address.le_antisymm)
    (Device.stablySorted_sort (located rows)) (Device.stablySorted_sort (located rows'))
    (h.filterMap _) hdistinct

theorem located_respelled (h : List.Forall₂ DeviceRow.Respells rows rows') :
    located rows = located rows' := by
  induction h with
  | nil => rfl
  | cons head _ ih => rw [located, located, List.filterMap_cons, List.filterMap_cons, head.toDevice,
      ← located, ← located, ih]

/-- A row that stands for no device is as good as none. -/
theorem located_skip {front back : List DeviceRow} {r : DeviceRow} (h : ∀ d, ¬ r.StandsFor d) :
    located (front ++ r :: back) = located (front ++ back) := by
  have hnone : r.toDevice.toOption = none :=
    Option.eq_none_iff_forall_ne_some.mpr fun d hd =>
      h d (DeviceRow.toDevice_toOption_iff.mp hd)
  simp [located, hnone]

/-- A backend answers a listing with a body that is read as these rows. -/
theorem listed_of_rows {c : Console} {code : Nat} {body : String} (hcode : 200 ≤ code ∧ code < 300)
    (h : DeviceRow.AreListedIn rows body) : c.listed (.answer code body) = .ok (devicesOf rows) := by
  rw [listed, Client.interpret_answer hcode, h]
  rfl

/-- For every list of rows there is a body that is read as it, and whichever body a backend answers
with, the listing succeeds. It shows what the rows stand for, each device once and as its row has it,
by ascending address and for one address in the order of the rows. So rows that stand for no device
might as well not be there, other spellings of the addresses, packed or dotted, change nothing, and
neither does another order of the rows where no two of them stand for one address. -/
theorem listDevices_rows {c : Console} (hc : c.client.base.isOpaque = false)
    (rows : List DeviceRow) :
    (∃ body, DeviceRow.AreListedIn rows body) ∧
    (∀ {σ : Type} (serve : Request → σ → Outcome × σ) (state : σ) {code : Nat} {body : String},
      (serve c.listRequest state).1 = .answer code body → 200 ≤ code → code < 300 →
      DeviceRow.AreListedIn rows body →
        (c.listDevices.run.run serve state).value = .ok (devicesOf rows)) ∧
    (∃ ds, Keeps DeviceRow.StandsFor rows ds ∧
      StablySorted Device.address ds (devicesOf rows)) ∧
    (∀ front r back, rows = front ++ r :: back → (∀ d, ¬ r.StandsFor d) →
      devicesOf rows = devicesOf (front ++ back)) ∧
    (∀ a : Address, (WireAddress.packed a.packed).Spells a ∧ (WireAddress.text a.text).Spells a) ∧
    (∀ rows', List.Forall₂ DeviceRow.Respells rows rows' → devicesOf rows = devicesOf rows') ∧
    ∀ rows', rows.Perm rows' →
      (∀ ds, Keeps DeviceRow.StandsFor rows ds → (ds.map (·.address)).Nodup) →
        devicesOf rows = devicesOf rows' := by
  refine ⟨⟨_, Client.readRows_deviceList rows⟩, ?_, ?_, ?_, ?_, ?_, ?_⟩
  · intro σ serve state code body hanswer hlo hhi hbody
    rw [listDevices_run hc, Exchange.run_ask, hanswer, Exchange.run_done]
    exact listed_of_rows ⟨hlo, hhi⟩ hbody
  · exact ⟨located rows, keeps_located rows, Device.stablySorted_sort _⟩
  · rintro front r back rfl hnone
    rw [devicesOf_eq, located_skip hnone, ← devicesOf_eq]
  · exact fun a => ⟨.packed, WireAddress.spells_text a⟩
  · intro rows' h
    rw [devicesOf_eq, located_respelled h, ← devicesOf_eq]
  · exact fun rows' h hdistinct => devicesOf_perm h (hdistinct _ (keeps_located rows))

/-- One address three times, packed, padded and dotted, and a row without one: the three stay in
their order behind the smaller address. -/
theorem listDevices_rows_spelled :
    let rows : List DeviceRow := [⟨.text " 10.0.0.010\n", some 1, true⟩, ⟨.text "10.0.0", none, true⟩,
      ⟨.packed 0x0A00000A, none, false⟩, ⟨.text "9.255.0.1", some 4, false⟩]
    let serve : Request → Unit → Outcome × Unit := fun _ u =>
      (.answer 200 (deviceList rows).compact, u)
    (ofBackend.listDevices.run.run serve ()).value = .ok [⟨⟨0x09FF0001⟩, some 4, false⟩,
      ⟨⟨0x0A00000A⟩, some 1, true⟩, ⟨⟨0x0A00000A⟩, none, false⟩] := by
  intro rows serve
  obtain ⟨-, hvalue, -⟩ := listDevices_rows (c := ofBackend) rfl rows
  have hlocated : located rows = [⟨⟨0x0A00000A⟩, some 1, true⟩, ⟨⟨0x0A00000A⟩, none, false⟩,
      ⟨⟨0x09FF0001⟩, some 4, false⟩] := by
    decide +kernel
  rw [hvalue serve () rfl (by decide) (by decide) (Client.readRows_deviceList rows), devicesOf_eq,
    hlocated]
  simp +decide [Device.sort, List.mergeSort]

end Console
end DeviceConsole
