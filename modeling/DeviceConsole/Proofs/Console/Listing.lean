import DeviceConsole.Proofs.Address.Order
import DeviceConsole.Proofs.Client.Rows
import DeviceConsole.Proofs.Provisioning.Serve
import DeviceConsole.Proofs.Wire.Row

/-! What the listings show of the rows a backend sends. A row whose address is a text that cannot be
read is left out and the others stay; a number that is no address fails the listing as a whole. -/
namespace DeviceConsole

open Json (HasAtMost)
open Client (unreadable)

/-! ### Rows that are kept -/

/-- What the items make, in their order; the items that make nothing are left out. -/
inductive Keeps {α β : Type} (Makes : α → β → Prop) : List α → List β → Prop
  | nil : Keeps Makes [] []
  | keep {a : α} {b : β} {as : List α} {bs : List β} (head : Makes a b) (tail : Keeps Makes as bs) :
      Keeps Makes (a :: as) (b :: bs)
  | skip {a : α} {as : List α} {bs : List β} (head : ∀ b, ¬ Makes a b)
      (tail : Keeps Makes as bs) : Keeps Makes (a :: as) bs

/-- Where an item makes one thing at most, only one list is kept. -/
theorem Keeps.unique {α β : Type} {Makes : α → β → Prop} {as : List α} {bs cs : List β}
    (hmakes : ∀ a b c, Makes a b → Makes a c → b = c) (h : Keeps Makes as bs)
    (h' : Keeps Makes as cs) : bs = cs := by
  induction h generalizing cs with
  | nil =>
    cases h'
    rfl
  | keep head _ ih =>
    cases h' with
    | keep head' tail' => rw [hmakes _ _ _ head head', ih tail']
    | skip head' _ => exact absurd head (head' _)
  | skip head _ ih =>
    cases h' with
    | keep head' _ => exact absurd head' (head _)
    | skip _ tail' => exact ih tail'

variable {X R D : Type} {Is : Json → X → Prop} {Sound : X → Prop} {Makes : X → D → Prop}
  {decode : Json → Option R} {make : R → Option D} {rows : List Json} {xs : List X}

/-- Where all rows are sound they can be decoded, and what is made of them is kept. -/
theorem Reads.mapM_sound (h : Reads Is Sound Makes decode make) (hrows : List.Forall₂ Is rows xs)
    (hsound : ∀ x ∈ xs, Sound x) :
    ∃ rs, rows.mapM decode = some rs ∧ Keeps Makes xs (rs.filterMap make) := by
  induction hrows with
  | nil => exact ⟨[], rfl, .nil⟩
  | @cons j x rows xs hrow _ ih =>
    obtain ⟨r, hr, hmake⟩ := h.sound hrow (hsound x List.mem_cons_self)
    obtain ⟨rs, hrs, hkeeps⟩ := ih fun x hx => hsound x (List.mem_cons_of_mem _ hx)
    refine ⟨r :: rs, by rw [List.mapM_cons, hr, hrs]; rfl, ?_⟩
    rw [List.filterMap_cons]
    cases hd : make r with
    | none => exact .skip (fun d hmakes => by simp [(hmake d).mpr hmakes] at hd) hkeeps
    | some d => exact .keep ((hmake d).mp hd) hkeeps

/-- One row that is not sound is enough for the list not to be decoded. -/
theorem Reads.mapM_unsound (h : Reads Is Sound Makes decode make)
    (hrows : List.Forall₂ Is rows xs) (hunsound : ∃ x ∈ xs, ¬ Sound x) :
    rows.mapM decode = none := by
  refine mapM_none_iff.mpr ?_
  induction hrows with
  | nil => simp at hunsound
  | @cons j x rows xs hrow _ ih =>
    obtain ⟨y, hy, hbad⟩ := hunsound
    rcases List.mem_cons.mp hy with rfl | hy
    · exact ⟨j, List.mem_cons_self, h.unsound hrow hbad⟩
    · obtain ⟨k, hk, hnone⟩ := ih ⟨y, hy, hbad⟩
      exact ⟨k, List.mem_cons_of_mem j hk, hnone⟩

namespace Console

/-! ### Conversations -/

def profilesRequest (c : Console) : Request :=
  { method := .get, url := c.client.endpoint "discovery-profiles" }

/-- The profiles an outcome of the listing stands for. -/
def profilesListed (c : Console) (o : Outcome) : Except ConsoleError (List DiscoveryProfile) :=
  (Client.rowsOf c.profilesRequest "profiles" DiscoveryRow.fields DiscoveryRow.ofJson? o).map
    profilesOf

theorem listDiscovery_run {c : Console} (h : c.client.base.isOpaque = false) :
    c.listDiscovery.run = .ask c.profilesRequest fun o => .done (c.profilesListed o) := by
  have hlift : (lift c.client.listDiscovery).run = _ := lift_run (Client.call_run h _ _ _ _)
  rw [listDiscovery, ExceptT.run_map, hlift]
  rfl

/-! ### Bodies -/

variable {c : Console} {code : Nat} {body : String} {fields : List (String × Json)}

theorem deviceRow_congr (j k : Json)
    (h : Json.record? DeviceRow.fields j = Json.record? DeviceRow.fields k) :
    DeviceRow.ofJson? j = DeviceRow.ofJson? k := by
  rw [DeviceRow.ofJson?, DeviceRow.ofJson?, h]

theorem profileRow_congr (j k : Json)
    (h : Json.record? DiscoveryRow.fields j = Json.record? DiscoveryRow.fields k) :
    DiscoveryRow.ofJson? j = DiscoveryRow.ofJson? k := by
  rw [DiscoveryRow.ofJson?, DiscoveryRow.ofJson?, h]

theorem listed_answer (hcode : 200 ≤ code ∧ code < 300)
    (hread : Json.read .all body = .ok (.obj fields))
    (hrows : HasAtMost fields "devices" (some (.arr rows))) :
    c.listed (.answer code body) = match rows.mapM DeviceRow.ofJson? with
      | some rs => .ok (devicesOf rs)
      | none => .error (unreadable body) := by
  change (Client.rowsOf c.listRequest "devices" DeviceRow.fields DeviceRow.ofJson? _).map _ = _
  rw [Client.rowsOf_answer hcode hread deviceRow_congr, Client.listed?_obj hrows]
  cases rows.mapM DeviceRow.ofJson? <;> rfl

theorem profilesListed_answer (hcode : 200 ≤ code ∧ code < 300)
    (hread : Json.read .all body = .ok (.obj fields))
    (hrows : HasAtMost fields "profiles" (some (.arr rows))) :
    c.profilesListed (.answer code body) = match rows.mapM DiscoveryRow.ofJson? with
      | some rs => .ok (profilesOf rs)
      | none => .error (unreadable body) := by
  rw [profilesListed, Client.rowsOf_answer hcode hread profileRow_congr, Client.listed?_obj hrows]
  cases rows.mapM DiscoveryRow.ofJson? <;> rfl

/-- Devices are shown where every address is one or a text, and then those that can be located. -/
theorem listed_rows {xs : List ListedDevice} (hcode : 200 ≤ code ∧ code < 300)
    (hread : Json.read .all body = .ok (.obj fields))
    (hfield : HasAtMost fields "devices" (some (.arr rows)))
    (hrows : List.Forall₂ IsDeviceRow rows xs) :
    ((∀ x ∈ xs, IsWireAddress x.ip) → ∃ kept ds, Keeps MakesDevice xs kept ∧
      c.listed (.answer code body) = .ok ds ∧ ds.Perm kept ∧
      ds.Pairwise fun d e => d.address ≤ e.address) ∧
    ((∃ x ∈ xs, ¬ IsWireAddress x.ip) →
      c.listed (.answer code body) = .error (unreadable body)) := by
  rw [listed_answer hcode hread hfield]
  constructor
  · intro hsound
    obtain ⟨rs, hrs, hkeeps⟩ := reads_deviceRow.mapM_sound hrows hsound
    exact ⟨_, devicesOf rs, hkeeps, by rw [hrs], List.mergeSort_perm _ _,
      (Device.stablySorted_sort _).ascending⟩
  · intro hunsound
    rw [reads_deviceRow.mapM_unsound hrows hunsound]

theorem profilesListed_rows {xs : List ListedProfile} (hcode : 200 ≤ code ∧ code < 300)
    (hread : Json.read .all body = .ok (.obj fields))
    (hfield : HasAtMost fields "profiles" (some (.arr rows)))
    (hrows : List.Forall₂ IsProfileRow rows xs) :
    ((∀ x ∈ xs, ∀ ip ∈ x.ips, IsWireAddress ip) → ∃ ps, Keeps MakesProfile xs ps ∧
      c.profilesListed (.answer code body) = .ok ps) ∧
    ((∃ x ∈ xs, ¬ ∀ ip ∈ x.ips, IsWireAddress ip) →
      c.profilesListed (.answer code body) = .error (unreadable body)) := by
  rw [profilesListed_answer hcode hread hfield]
  constructor
  · intro hsound
    obtain ⟨rs, hrs, hkeeps⟩ := reads_profileRow.mapM_sound hrows hsound
    exact ⟨_, hkeeps, by rw [hrs]; rfl⟩
  · intro hunsound
    rw [reads_profileRow.mapM_unsound hrows hunsound]

/-- A backend answers a listing with a JSON object whose rows are well typed but for what stands in
the places of the addresses. Where each of these is a text or an integer of 32 bits, the listing
shows the rows that can be located and no others: devices sorted by address, profiles in order.
Where one of them is not, as any other number, nothing is shown. -/
theorem listings_rows {σ : Type} (hc : c.client.base.isOpaque = false)
    (serve : Request → σ → Outcome × σ) (state : σ) (hcode : 200 ≤ code ∧ code < 300)
    (hread : Json.read .all body = .ok (.obj fields)) :
    ((serve c.listRequest state).1 = .answer code body →
      ∀ rows xs, HasAtMost fields "devices" (some (.arr rows)) →
        List.Forall₂ IsDeviceRow rows xs →
          ((∀ x ∈ xs, IsWireAddress x.ip) → ∃ kept ds, Keeps MakesDevice xs kept ∧
            (c.listDevices.run.run serve state).value = .ok ds ∧ ds.Perm kept ∧
            ds.Pairwise fun d e => d.address ≤ e.address) ∧
          ((∃ x ∈ xs, ¬ IsWireAddress x.ip) →
            (c.listDevices.run.run serve state).value = .error (unreadable body))) ∧
    ((serve c.profilesRequest state).1 = .answer code body →
      ∀ rows xs, HasAtMost fields "profiles" (some (.arr rows)) →
        List.Forall₂ IsProfileRow rows xs →
          ((∀ x ∈ xs, ∀ ip ∈ x.ips, IsWireAddress ip) → ∃ ps, Keeps MakesProfile xs ps ∧
            (c.listDiscovery.run.run serve state).value = .ok ps) ∧
          ((∃ x ∈ xs, ¬ ∀ ip ∈ x.ips, IsWireAddress ip) →
            (c.listDiscovery.run.run serve state).value = .error (unreadable body))) := by
  constructor
  · intro hanswer rows xs hfield hrows
    have hvalue : (c.listDevices.run.run serve state).value = c.listed (.answer code body) := by
      rw [listDevices_run hc, Exchange.run_ask, hanswer, Exchange.run_done]
    rw [hvalue]
    exact listed_rows hcode hread hfield hrows
  · intro hanswer rows xs hfield hrows
    have hvalue : (c.listDiscovery.run.run serve state).value =
        c.profilesListed (.answer code body) := by
      rw [listDiscovery_run hc, Exchange.run_ask, hanswer, Exchange.run_done]
    rw [hvalue]
    exact profilesListed_rows hcode hread hfield hrows

/-! ### A text and a number that are no addresses -/

/-- A row with nothing but an address is well typed. -/
theorem isDeviceRow_ip (ip : Json) : IsDeviceRow (.obj [("ip", ip)]) ⟨ip, none, false⟩ :=
  @IsDeviceRow.record [("ip", ip)] ⟨ip, none, false⟩ none none rfl rfl rfl .absent .absent

/-- A device list with nothing but addresses. -/
def ipList (ips : List Json) : Json :=
  .obj [("devices", .arr (ips.map fun ip => .obj [("ip", ip)]))]

theorem ipList_rows (ips : List Json) :
    List.Forall₂ IsDeviceRow (ips.map fun ip => .obj [("ip", ip)])
      (ips.map fun ip => ⟨ip, none, false⟩) := by
  rw [List.forall₂_map_left_iff, List.forall₂_map_right_iff, List.forall₂_same]
  exact fun ip _ => isDeviceRow_ip ip

theorem fitsItems_ips {ips : List Json} (h : ∀ ip ∈ ips, Json.Fits 124 .all ip) (i : Nat) :
    Json.FitsItems 125 .all i (ips.map fun ip => .obj [("ip", ip)]) := by
  induction ips generalizing i with
  | nil => trivial
  | cons ip ips ih =>
    refine ⟨⟨rfl, by decide, h ip List.mem_cons_self, trivial⟩, ?_⟩
    exact ih (fun x hx => h x (List.mem_cons_of_mem ip hx)) (i + 1)

theorem read_ipList {ips : List Json} (h : ∀ ip ∈ ips, Json.Fits 124 .all ip) :
    Json.read .all (ipList ips).compact = .ok (ipList ips) :=
  Json.read_compact ⟨rfl, by decide, ⟨rfl, by decide, fitsItems_ips h 0⟩, trivial⟩

/-- A text that is no address costs its own row only, with a padded and a packed address around. -/
theorem listings_rows_text :
    let ips : List Json := [.str " 10.0.0.2", .str "x", .int 1]
    let serve : Request → Unit → Outcome × Unit := fun _ u => (.answer 200 (ipList ips).compact, u)
    Json.read .all (ipList ips).compact = .ok (ipList ips) ∧ (∀ ip ∈ ips, IsWireAddress ip) ∧
      ∃ ds, (ofBackend.listDevices.run.run serve ()).value = .ok ds ∧
        ds.Perm [⟨⟨0x0A000002⟩, none, false⟩, ⟨⟨1⟩, none, false⟩] := by
  intro ips serve
  have hread : Json.read .all (ipList ips).compact = .ok (ipList ips) := read_ipList <| by
    simp only [ips, List.forall_mem_cons]
    exact ⟨rfl, rfl, ⟨by decide, by decide⟩, by simp⟩
  have hsound : ∀ ip ∈ ips, IsWireAddress ip := by
    simp only [ips, List.forall_mem_cons]
    exact ⟨.text _, .text _, .packed (by decide) (by decide), by simp⟩
  have hcode : 200 ≤ 200 ∧ 200 < 300 := by decide
  obtain ⟨hdevices, -⟩ := listings_rows (c := ofBackend) rfl serve () hcode hread
  obtain ⟨hshown, -⟩ := hdevices rfl _ _ rfl (ipList_rows ips)
  obtain ⟨kept, ds, hkept, hvalue, hperm, -⟩ := hshown (by simpa using hsound)
  have hx : ∀ d, ¬ MakesDevice ⟨.str "x", none, false⟩ d := by
    intro d hd
    have hbad : Address.parse (Text.trim "x") = .error (.invalidAddresses ["x"]) := by decide
    obtain _ | ha := hd.address
    rw [hbad] at ha
    cases ha
  have hkeeps : Keeps MakesDevice (ips.map fun ip => ⟨ip, none, false⟩)
      [⟨⟨0x0A000002⟩, none, false⟩, ⟨⟨1⟩, none, false⟩] :=
    .keep ⟨.text (by decide), rfl, rfl⟩
      (.skip hx (.keep ⟨.packed (by decide), rfl, rfl⟩ .nil))
  have hunique : ∀ x d e, MakesDevice x d → MakesDevice x e → d = e :=
    fun _ _ _ => MakesDevice.unique
  exact ⟨hread, hsound, ds, hvalue, hkept.unique hunique hkeeps ▸ hperm⟩

/-- A negative number hides the device beside it. -/
theorem listDevices_negative :
    let ips : List Json := [.str "10.0.0.1", .int (-1)]
    let serve : Request → Unit → Outcome × Unit := fun _ u => (.answer 200 (ipList ips).compact, u)
    Json.read .all (ipList ips).compact = .ok (ipList ips) ∧
      (∃ fields rows, ipList ips = .obj fields ∧ HasAtMost fields "devices" (some (.arr rows)) ∧
        List.Forall₂ IsDeviceRow rows (ips.map fun ip => ⟨ip, none, false⟩)) ∧
      Locates (.str "10.0.0.1") ⟨0x0A000001⟩ ∧
      ∀ ds, (ofBackend.listDevices.run.run serve ()).value ≠ .ok ds := by
  intro ips serve
  have hread : Json.read .all (ipList ips).compact = .ok (ipList ips) := read_ipList <| by
    simp only [ips, List.forall_mem_cons]
    exact ⟨rfl, ⟨by decide, by decide⟩, by simp⟩
  have hcode : 200 ≤ 200 ∧ 200 < 300 := by decide
  have hnegative : ¬ IsWireAddress (.int (-1)) := by
    rintro ⟨hnonneg, -⟩
    exact absurd hnonneg (by decide)
  obtain ⟨-, hhidden⟩ := listed_rows (c := ofBackend) hcode hread rfl (ipList_rows ips)
  have herror := hhidden ⟨⟨.int (-1), none, false⟩, by simp [ips], hnegative⟩
  refine ⟨hread, ⟨_, _, rfl, rfl, ipList_rows ips⟩, .text (by decide), fun ds hds => ?_⟩
  rw [listDevices_run rfl, Exchange.run_ask, Exchange.run_done] at hds
  cases herror.symm.trans hds

end Console
end DeviceConsole
